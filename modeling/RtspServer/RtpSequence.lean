import RtspServer.RtpRun

/-!
# The headers of an RTP stream

RFC 3550 reads a header most significant bit first; `RtpConnection` writes
its own as a C struct on a little-endian host. `Rfc3550Header.decode` is the
reading of the RFC, and `decode_toBytes` says that the two agree.

On top of that the module follows the header of a channel through the runs
of a connection. What one operation does to it is said once (`wire_exec`):
the payload type changes when it is set, the sequence counter advances when
a packet of the channel is handed over, and nothing else moves.
-/

/-! ## Reading a header -/

/-- The fixed fields of an RTP header, as RFC 3550 defines them. -/
structure Rfc3550Header where
  version : ℕ
  padding : ℕ
  ext : ℕ
  csrcCount : ℕ
  marker : ℕ
  payloadType : ℕ
  sequenceNumber : ℕ
  timestamp : ℕ
  ssrc : ℕ
deriving DecidableEq, Repr

namespace Rfc3550Header

/-- A number in network byte order. -/
def bigEndian (bs : Bytes) : ℕ := bs.foldl (fun n b => 256 * n + b.toNat) 0

/-- The header in the first twelve bytes. -/
def decode (bs : Bytes) : Option Rfc3550Header :=
  match bs with
  | b₀ :: b₁ :: rest =>
    if rest.length < 10 then none
    else some
      { version := b₀.toNat / 64
        padding := b₀.toNat / 32 % 2
        ext := b₀.toNat / 16 % 2
        csrcCount := b₀.toNat % 16
        marker := b₁.toNat / 128
        payloadType := b₁.toNat % 128
        sequenceNumber := bigEndian (rest.take 2)
        timestamp := bigEndian ((rest.drop 2).take 4)
        ssrc := bigEndian ((rest.drop 6).take 4) }
  | _ => none

end Rfc3550Header

open Rfc3550Header

theorem bigEndian_pair (a b : UInt8) : bigEndian [a, b] = 256 * a.toNat + b.toNat := by
  rw [bigEndian, List.foldl_cons, List.foldl_cons, List.foldl_nil, Nat.mul_zero, Nat.zero_add]

theorem bigEndian_quad (a b c d : UInt8) :
    bigEndian [a, b, c, d] = 256 * (256 * bigEndian [a, b] + c.toNat) + d.toNat := rfl

/-- A 32-bit number by its bytes. -/
theorem exists_bytes {n : ℕ} (hn : n < 4294967296) :
    ∃ b₀ b₁ b₂ b₃, b₀ < 256 ∧ b₁ < 256 ∧ b₂ < 256 ∧ b₃ < 256
      ∧ n = b₀ + 256 * b₁ + 65536 * b₂ + 16777216 * b₃ :=
  ⟨n % 256, n / 256 % 256, n / 256 / 256 % 256, n / 256 / 256 / 256,
    by omega, by omega, by omega, by omega, by omega⟩

/-- The bytes of a number written by its bytes. -/
theorem byte_digits {n b₀ b₁ b₂ b₃ : ℕ} (h₀ : b₀ < 256) (h₁ : b₁ < 256) (h₂ : b₂ < 256)
    (hn : n = b₀ + 256 * b₁ + 65536 * b₂ + 16777216 * b₃) :
    n % 256 = b₀ ∧ n / 256 % 256 = b₁ ∧ n / 65536 % 256 = b₂ ∧ n / 16777216 = b₃ := by
  have hd₁ : n / 256 = b₁ + 256 * b₂ + 65536 * b₃ := by omega
  have hd₂ : n / 65536 = b₂ + 256 * b₃ := by omega
  refine ⟨by omega, ?_, ?_, by omega⟩
  · rw [hd₁]; omega
  · rw [hd₂]; omega

/-- **Swapping the bytes and writing them least significant first is writing
them most significant first.** -/
theorem bigEndian_leBytes16_htons (x : UInt16) :
    bigEndian (leBytes16 (htons x)) = x.toNat := by
  have hval := toNat_htons x
  have hx := x.toNat_lt
  generalize htons x = y at hval ⊢
  generalize x.toNat = n at hval hx ⊢
  have hlo : y.toNat % 2 ^ 8 = n / 256 := by omega
  have hhi : y.toNat / 256 % 2 ^ 8 = n % 256 := by omega
  rw [leBytes16, bigEndian_pair, UInt8.toNat_ofNat', UInt8.toNat_ofNat', hlo, hhi]
  omega

theorem bigEndian_leBytes32_htonl (x : UInt32) :
    bigEndian (leBytes32 (htonl x)) = x.toNat := by
  have hval := toNat_htonl x
  have hx := x.toNat_lt
  generalize htonl x = y at hval ⊢
  generalize x.toNat = n at hval hx ⊢
  obtain ⟨b₀, b₁, b₂, b₃, h₀, h₁, h₂, h₃, hn⟩ := exists_bytes hx
  obtain ⟨e₀, e₁, e₂, e₃⟩ := byte_digits h₀ h₁ h₂ hn
  rw [e₀, e₁, e₂, e₃] at hval
  have hy : y.toNat = b₃ + 256 * b₂ + 65536 * b₁ + 16777216 * b₀ := by omega
  obtain ⟨f₀, f₁, f₂, f₃⟩ := byte_digits h₃ h₂ h₁ hy
  rw [leBytes32, bigEndian_quad, bigEndian_pair, UInt8.toNat_ofNat', UInt8.toNat_ofNat',
    UInt8.toNat_ofNat', UInt8.toNat_ofNat', show 2 ^ 8 = 256 from rfl, f₀, f₁, f₂, f₃]
  omega

/-- **The struct in memory is the header on the wire.** -/
theorem decode_toBytes (h : RtpHeader) (seq : UInt16) (ts ssrc : UInt32)
    (hseq : h.seq = htons seq) (hts : h.ts = htonl ts) (hssrc : h.ssrc = htonl ssrc) :
    decode h.toBytes = some
      { version := h.version.toNat
        padding := h.padding.toNat
        ext := h.ext.toNat
        csrcCount := h.cc.toNat
        marker := h.marker.toNat
        payloadType := h.payload.toNat
        sequenceNumber := seq.toNat
        timestamp := ts.toNat
        ssrc := ssrc.toNat } := by
  have hcc := h.cc.isLt
  have hext := h.ext.isLt
  have hpad := h.padding.isLt
  have hver := h.version.isLt
  have hpay := h.payload.isLt
  have hmark := h.marker.isLt
  have hlen : (leBytes16 h.seq ++ (leBytes32 h.ts ++ leBytes32 h.ssrc)).length = 10 := rfl
  show decode (_ :: _ :: (leBytes16 h.seq ++ (leBytes32 h.ts ++ leBytes32 h.ssrc))) = _
  rw [decode, if_neg (by omega)]
  refine congrArg some ?_
  rw [show (leBytes16 h.seq ++ (leBytes32 h.ts ++ leBytes32 h.ssrc)).take 2
      = leBytes16 h.seq from rfl,
    show ((leBytes16 h.seq ++ (leBytes32 h.ts ++ leBytes32 h.ssrc)).drop 2).take 4
      = leBytes32 h.ts from rfl,
    show ((leBytes16 h.seq ++ (leBytes32 h.ts ++ leBytes32 h.ssrc)).drop 6).take 4
      = leBytes32 h.ssrc from rfl,
    hseq, hts, hssrc, bigEndian_leBytes16_htons, bigEndian_leBytes32_htonl,
    bigEndian_leBytes32_htonl]
  simp only [UInt8.toNat_ofNat']
  congr 1 <;> omega

/-! ## What an operation does to a channel's header -/

/-- The part of a channel that its packet headers are made from: the header
without the fields every packet overwrites, and the sequence counter. -/
def MediaChannelInfo.wire (info : MediaChannelInfo) : RtpHeader × UInt16 :=
  ({ info.rtpHeader with marker := 0, ts := 0, seq := 0 }, info.packetSeq)

namespace RtpConnection

/-- The same of a channel of a connection. -/
def wire (c : RtpConnection) (ch : MediaChannelId) : RtpHeader × UInt16 :=
  (c.mediaChannelInfo ch).wire

/-- The channel an operation hands a packet over on. -/
def handedChannel (c : RtpConnection) (op : Op) : Option MediaChannelId :=
  (c.handedBy op).map (·.channelId)

/-- The payload type an operation sets for a channel. -/
def payloadGiven (ch : MediaChannelId) : Op → Option UInt32
  | .setPayloadType ch' payload => if ch' = ch then some payload else none
  | _ => none

/-- What an operation makes of a channel's header and counter. -/
def wireAfter (c : RtpConnection) (ch : MediaChannelId) (op : Op)
    (w : RtpHeader × UInt16) : RtpHeader × UInt16 :=
  ({ w.1 with
      payload := ((payloadGiven ch op).map fun p => .ofNat 7 p.toNat).getD w.1.payload },
    if c.handedChannel op = some ch then w.2 + 1 else w.2)

theorem wire_congr {c c' : RtpConnection} {ch : MediaChannelId}
    (h : c'.mediaChannelInfo ch = c.mediaChannelInfo ch) : c'.wire ch = c.wire ch :=
  congrArg MediaChannelInfo.wire h

theorem wire_modifyInfo_of_ne (c : RtpConnection) {ch ch' : MediaChannelId} (h : ch' ≠ ch)
    (f : MediaChannelInfo → MediaChannelInfo) : (c.modifyInfo ch f).wire ch' = c.wire ch' :=
  wire_congr (modifyInfo_of_ne c h f)

/-- A change that leaves header and counter of the channel alone. -/
theorem wire_modifyInfo (c : RtpConnection) (ch ch' : MediaChannelId)
    {f : MediaChannelInfo → MediaChannelInfo} (hf : ∀ info, (f info).wire = info.wire) :
    (c.modifyInfo ch f).wire ch' = c.wire ch' :=
  c.modifyInfo_proj ch ch' MediaChannelInfo.wire hf

theorem wire_mapInfo (c : RtpConnection) (ch : MediaChannelId)
    {f : MediaChannelInfo → MediaChannelInfo} (hf : ∀ info, (f info).wire = info.wire) :
    (c.mapInfo f).wire ch = c.wire ch :=
  hf _

theorem wire_teardown (c : RtpConnection) (ch : MediaChannelId) :
    c.teardown.wire ch = c.wire ch := by
  unfold teardown
  split
  · rfl
  · exact wire_mapInfo _ ch (f := fun info => { info with isRecord := false, isPlay := false })
      fun _ => rfl

theorem wire_setupRtpOverTcp (c : RtpConnection) (tcpConn : Option TcpPeer)
    (channelId : MediaChannelId) (rtpChannel rtcpChannel : UInt16) (ch : MediaChannelId) :
    (c.setupRtpOverTcp tcpConn channelId rtpChannel rtcpChannel).2.wire ch = c.wire ch := by
  cases tcpConn with
  | none => rfl
  | some tcp =>
    exact wire_modifyInfo c channelId ch (f := fun info =>
      { info with rtpChannel := rtpChannel, rtcpChannel := rtcpChannel, isSetup := true })
      fun _ => rfl

theorem wire_setupRtpOverUdp (c : RtpConnection) (tcpConn : Option TcpPeer)
    (attempts : Fin 10 → UdpAttempt) (channelId : MediaChannelId) (rtpPort rtcpPort : UInt16)
    (ch : MediaChannelId) :
    (c.setupRtpOverUdp tcpConn attempts channelId rtpPort rtcpPort).2.1.wire ch
      = c.wire ch := by
  cases tcpConn with
  | none => rfl
  | some tcp =>
    set d : RtpConnection := { c with peerAddr := tcp.peerName.getD c.peerAddr }.modifyInfo
      channelId fun info => { info with rtpPort := rtpPort, rtcpPort := rtcpPort } with hd
    have hports : d.wire ch = c.wire ch :=
      wire_modifyInfo { c with peerAddr := tcp.peerName.getD c.peerAddr } channelId ch
        fun _ => rfl
    have hopen := openPorts_mediaChannelInfo channelId (List.ofFn attempts) d
    rcases ho : d.openPorts channelId (List.ofFn attempts) with ⟨ok, e, calls⟩
    rw [ho] at hopen
    have he : e.wire ch = d.wire ch := wire_congr (congrFun hopen ch)
    cases ok with
    | false =>
      simp only [setupRtpOverUdp, ← hd, ho]
      exact he.trans hports
    | true =>
      simp only [setupRtpOverUdp, ← hd, ho]
      exact (wire_modifyInfo _ channelId ch (f := fun info => { info with isSetup := true })
        fun _ => rfl).trans (he.trans hports)

/-- A send task advances the counter of its channel when it hands a packet
over, and leaves headers and counters alone otherwise. -/
theorem wire_prepare (c : RtpConnection) (channelId : MediaChannelId) (pkt : RtpPacket)
    (ch : MediaChannelId) :
    (c.prepare channelId pkt).1.wire ch =
      ((c.wire ch).1,
        if ((c.prepare channelId pkt).2.map fun _ => channelId) = some ch then
          (c.wire ch).2 + 1
        else (c.wire ch).2) := by
  have hframe : (c.setFrameType pkt.type).wire ch = c.wire ch :=
    wire_congr (by rw [setFrameType_mediaChannelInfo])
  obtain ⟨-, hp⟩ | ⟨-, hp⟩ := prepare_cases c channelId pkt
  · rw [hp]
    dsimp only [Option.map_some]
    by_cases hch : channelId = ch
    · subst hch
      rw [if_pos rfl]
      unfold wire
      rw [modifyInfo_self, setFrameType_mediaChannelInfo]
      rfl
    · rw [if_neg (by simpa using hch), wire_modifyInfo_of_ne _ (Ne.symm hch), hframe]
  · rw [hp]
    exact hframe

/-- **What one operation does to the headers of a channel.** The payload type
follows `setPayloadType`, the counter advances exactly when a packet of the
channel is handed over, and everything else stays. -/
theorem wire_exec {c c' : RtpConnection} {op : Op} (h : c.exec op = .ok c')
    (ch : MediaChannelId) : c'.wire ch = c.wireAfter ch op (c.wire ch) := by
  cases op with
  | setClockRate channelId clockRate =>
    cases h
    exact wire_modifyInfo c channelId ch (f := fun info => { info with clockRate := clockRate })
      fun _ => rfl
  | setPayloadType channelId payload =>
    cases h
    by_cases hch : channelId = ch
    · subst hch
      rw [wireAfter, payloadGiven, if_pos rfl]
      exact congrArg MediaChannelInfo.wire (modifyInfo_self c channelId _)
    · rw [wireAfter, payloadGiven, if_neg hch]
      exact wire_modifyInfo_of_ne c (Ne.symm hch) _
  | setupRtpOverTcp tcpConn channelId rtpChannel rtcpChannel =>
    cases h
    exact wire_setupRtpOverTcp ..
  | setupRtpOverUdp tcpConn attempts channelId rtpPort rtcpPort =>
    cases h
    exact wire_setupRtpOverUdp ..
  | play =>
    cases h
    refine wire_mapInfo c ch fun info => ?_
    split <;> rfl
  | record =>
    cases h
    refine wire_mapInfo c ch fun info => ?_
    split <;> rfl
  | teardown =>
    cases h
    exact wire_teardown c ch
  | task tcpConn sendtoFails channelId pkt =>
    obtain ⟨⟨d, out⟩, hd, rfl⟩ : ∃ r, c.sendTask tcpConn sendtoFails channelId pkt = .ok r
        ∧ r.1 = c' := by
      cases hr : c.sendTask tcpConn sendtoFails channelId pkt with
      | error e => simp only [exec, hr] at h; cases h
      | ok r => simp only [exec, hr] at h; cases h; exact ⟨r, rfl, rfl⟩
    have hwire : d.wire ch = (c.prepare channelId pkt).1.wire ch := by
      rcases sendTask_conn hd with rfl | rfl
      · rfl
      · exact wire_teardown _ ch
    have hchannel : c.handedChannel (.task tcpConn sendtoFails channelId pkt)
        = (c.prepare channelId pkt).2.map fun _ => channelId := by
      unfold handedChannel handedBy
      rw [Option.map_map]
      rfl
    rw [hwire, wire_prepare, wireAfter, hchannel]
    rfl

/-! ## The headers of a run -/

/-- The last payload type given to `setPayloadType` for a channel; before the
first one the constructor's 0 stands there. -/
def lastPayloadType (ch : MediaChannelId) (ops : List Op) : UInt32 :=
  ops.foldl (fun payload op => (payloadGiven ch op).getD payload) 0

/-- The initial sequence number of a channel, drawn by the constructor. -/
def initialSeq (rd : ℕ → UInt32) (ch : MediaChannelId) : ℕ :=
  (rd (3 * ch.index)).toNat % 0xffff

/-- The SSRC of a channel, drawn by the constructor. -/
def initialSsrc (rd : ℕ → UInt32) (ch : MediaChannelId) : UInt32 := rd (3 * ch.index + 2)

/-- **The invariant of a channel.** Its header is that of the constructor
with the last payload type, and its counter is the initial sequence number
plus the number of packets handed over. -/
structure Numbered (rd : ℕ → UInt32) (ch : MediaChannelId) (ops : List Op) (s : Sender) :
    Prop where
  header : (s.conn.wire ch).1 =
    { version := .ofNat 2 rtpVersion
      payload := .ofNat 7 (lastPayloadType ch ops).toNat
      ssrc := htonl (initialSsrc rd ch) }
  seq : (s.conn.wire ch).2.toNat = (initialSeq rd ch + s.countOn ch) % 65536

theorem numbered_new (garbage : RtpConnection) (rd : ℕ → UInt32) (ch : MediaChannelId) :
    Numbered rd ch [] ⟨RtpConnection.new garbage rd, []⟩ := by
  refine ⟨rfl, ?_⟩
  show ((rd (3 * ch.index) % 0xffff).toUInt16).toNat = (initialSeq rd ch + 0) % 65536
  rw [UInt32.toNat_toUInt16, UInt32.toNat_mod]
  rfl

theorem Numbered.step {rd : ℕ → UInt32} {ch : MediaChannelId} {ops : List Op}
    {s s' : Sender} {op : Op} (hs : Numbered rd ch ops s) (h : s.step op = .ok s') :
    Numbered rd ch (ops ++ [op]) s' := by
  obtain ⟨hexec, hhanded⟩ := Sender.step_eq_ok h
  have hwire := wire_exec hexec ch
  have hcount : s'.countOn ch = s.countOn ch
      + if s.conn.handedChannel op = some ch then 1 else 0 := by
    unfold Sender.countOn handedChannel
    rw [Sender.handedOn_step h, List.length_append]
    cases s.conn.handedBy op with
    | none => rfl
    | some o =>
      by_cases ho : o.channelId = ch
      · simp [ho]
      · simp [ho]
  have hlast : lastPayloadType ch (ops ++ [op])
      = (payloadGiven ch op).getD (lastPayloadType ch ops) := by
    unfold lastPayloadType
    rw [List.foldl_append]
    rfl
  constructor
  · rw [hwire, hlast, wireAfter, hs.header]
    cases payloadGiven ch op <;> rfl
  · rw [hwire, hcount, wireAfter]
    by_cases hch : s.conn.handedChannel op = some ch
    · rw [if_pos hch, if_pos hch, UInt16.toNat_add, hs.seq]
      show ((_ % 65536) + 1) % 65536 = _
      omega
    · rw [if_neg hch, if_neg hch]
      exact hs.seq

/-- **The invariant holds wherever a run ends**, for each channel. -/
theorem numbered_of_run {garbage : RtpConnection} {rd : ℕ → UInt32} {ops : List Op}
    {s : Sender} (hrun : (Sender.system garbage rd).Run ops s) (ch : MediaChannelId) :
    Numbered rd ch ops s := by
  induction hrun with
  | nil hinit => exact hinit ▸ numbered_new garbage rd ch
  | snoc _ hstep ih => exact ih.step hstep

/-- A packet handed over carries the header made from its channel's state
before the task, and its own payload. -/
theorem handedBy_eq_some {c : RtpConnection} {op : Op} {o : Handover}
    (h : c.handedBy op = some o) :
    ∃ tcpConn sendtoFails pkt, op = .task tcpConn sendtoFails o.channelId pkt
      ∧ o.pkt = stamp pkt (nextHeader (c.mediaChannelInfo o.channelId) pkt) := by
  cases op with
  | task tcpConn sendtoFails channelId pkt =>
    obtain ⟨-, hp⟩ | ⟨-, hp⟩ := prepare_cases c channelId pkt
    · simp only [handedBy, hp, Option.map_some, Option.some.injEq] at h
      subst h
      exact ⟨tcpConn, sendtoFails, pkt, rfl, rfl⟩
    · simp only [handedBy, hp, Option.map_none] at h
      cases h
  | _ => cases h

/-- Behind the header a stamped packet is the packet given. -/
theorem drop_stamp (pkt : RtpPacket) (header : RtpHeader) :
    (stamp pkt header).data.toList.drop 16 = pkt.data.toList.drop 16 :=
  drop_overwrite_of_le (by rw [pkt.data.toList_length]; decide) (show 4 + 12 ≤ 16 by decide)

/-- The twelve bytes at offset 4 are the header stamped. -/
theorem header_stamp (pkt : RtpPacket) (header : RtpHeader) :
    ((stamp pkt header).data.toList.drop 4).take 12 = header.toBytes := by
  have hlen : 4 ≤ pkt.data.toList.length := by
    rw [pkt.data.toList_length]
    decide
  show ((overwrite pkt.data.toList 4 header.toBytes).drop 4).take header.toBytes.length = _
  exact take_drop_overwrite hlen

/-- The header of the next packet of a channel whose invariant holds, read as
RFC 3550 reads it. -/
theorem Numbered.decode_nextHeader {rd : ℕ → UInt32} {ch : MediaChannelId} {ops : List Op}
    {s : Sender} (hs : Numbered rd ch ops s) (pkt : RtpPacket) :
    decode (nextHeader (s.conn.mediaChannelInfo ch) pkt).toBytes = some
      { version := 2
        padding := 0
        ext := 0
        csrcCount := 0
        marker := pkt.last.toNat % 2
        payloadType := (lastPayloadType ch ops).toNat % 128
        sequenceNumber := (initialSeq rd ch + s.countOn ch) % 65536
        timestamp := pkt.timestamp.toNat
        ssrc := (initialSsrc rd ch).toNat } := by
  set info := s.conn.mediaChannelInfo ch with hinfo
  have hheader : ({ info.rtpHeader with marker := 0, ts := 0, seq := 0 } : RtpHeader) = _ :=
    hs.header
  have hseq : info.packetSeq.toNat = _ := hs.seq
  have hnext : nextHeader info pkt =
      { version := .ofNat 2 rtpVersion
        payload := .ofNat 7 (lastPayloadType ch ops).toNat
        marker := .ofNat 1 pkt.last.toNat
        seq := htons info.packetSeq
        ts := htonl pkt.timestamp
        ssrc := htonl (initialSsrc rd ch) } :=
    congrArg (fun h : RtpHeader => { h with
      marker := .ofNat 1 pkt.last.toNat, seq := htons info.packetSeq,
      ts := htonl pkt.timestamp }) hheader
  rw [hnext, decode_toBytes _ info.packetSeq pkt.timestamp (initialSsrc rd ch) rfl rfl rfl, hseq]
  rfl

/-- **Every RTP stream is numbered without gap or repeat.** In every run of a
connection, whatever packet an operation hands to `sendRtpOverTcp` or
`sendRtpOverUdp`, the twelve bytes at offset 4 are a version 2 header with
the packet's marker and timestamp, the payload type last set and the SSRC of
the channel, and its sequence number is the channel's initial one plus the
number of packets handed over before *on that channel*. What follows the
header is the packet given. -/
theorem handed_numbered {garbage : RtpConnection} {rd : ℕ → UInt32} {ops : List Op}
    {s : Sender} (hrun : (Sender.system garbage rd).Run ops s) {op : Op} {o : Handover}
    (h : s.conn.handedBy op = some o) :
    ∃ tcpConn sendtoFails pkt, op = .task tcpConn sendtoFails o.channelId pkt
      ∧ decode ((o.pkt.data.toList.drop 4).take 12) = some
        { version := 2
          padding := 0
          ext := 0
          csrcCount := 0
          marker := pkt.last.toNat % 2
          payloadType := (lastPayloadType o.channelId ops).toNat % 128
          sequenceNumber := (initialSeq rd o.channelId + (s.handedOn o.channelId).length) % 65536
          timestamp := pkt.timestamp.toNat
          ssrc := (initialSsrc rd o.channelId).toNat }
      ∧ o.pkt.data.toList.drop 16 = pkt.data.toList.drop 16
      ∧ o.pkt.size = pkt.size := by
  obtain ⟨tcpConn, sendtoFails, pkt, rfl, hpkt⟩ := handedBy_eq_some h
  refine ⟨tcpConn, sendtoFails, pkt, rfl, ?_, ?_, ?_⟩
  · rw [hpkt, header_stamp]
    exact (numbered_of_run hrun o.channelId).decode_nextHeader pkt
  · rw [hpkt, drop_stamp]
  · rw [hpkt]
    rfl

/-- A packet with four bytes of payload. -/
def fourBytes : RtpPacket :=
  { data := .filled 1600 7, size := 20, timestamp := 90000, type := videoFrameI, last := 1 }

/-- The operations of a client that sets channel 0 up over TCP, plays, and is
sent one packet. -/
def playedOnce : List Op :=
  [.setPayloadType .channel0 96, .setupRtpOverTcp (some ⟨9, none⟩) .channel0 0 1, .play,
    .task (some ⟨9, none⟩) false .channel0 fourBytes]

/-- The second packet of such a client, with 65534 as the initial sequence
number. -/
theorem handed_numbered_secondPacket :
    ∃ s o, (Sender.system zeroed fun _ => 65534).Run playedOnce s
      ∧ s.conn.handedBy (.task (some ⟨9, none⟩) false .channel0 fourBytes) = some o
      ∧ ∃ tcpConn sendtoFails pkt, Op.task (some ⟨9, none⟩) false .channel0 fourBytes
          = .task tcpConn sendtoFails o.channelId pkt
        ∧ decode ((o.pkt.data.toList.drop 4).take 12) = some
          { version := 2
            padding := 0
            ext := 0
            csrcCount := 0
            marker := pkt.last.toNat % 2
            payloadType := 96
            sequenceNumber := 65535
            timestamp := pkt.timestamp.toNat
            ssrc := 65534 }
        ∧ o.pkt.data.toList.drop 16 = pkt.data.toList.drop 16
        ∧ o.pkt.size = pkt.size := by
  have hrun : (Sender.system zeroed fun _ => 65534).Run playedOnce _ :=
    System.run_of_foldlM rfl
  exact ⟨_, _, hrun, rfl, handed_numbered hrun rfl⟩

end RtpConnection
