import RtspServer.Media

/-!
# The H.264 packetizer: `h264_source.cc`

`H264Source::handleFrame` turns a frame into RTP packets and hands each one
to the send callback as soon as it is built. A frame of at most 1420 bytes
is copied into one packet; a longer one is cut into FU-A fragments of 1418
bytes behind a two-byte prefix, the FU indicator and the FU header.

Sizes are `uint32_t` and wrap; the copies are checked, so that a copy past
the frame or past the packet's 1600 bytes is a `Fault`. The callback is a
function on a state `σ` and may refuse a packet, which ends the call. The
contents of a new packet's buffer are indeterminate: `heap k` is what the
`k`-th allocation of the call finds there.

`Fragmented` says what the fragmentation loop emits, and
`fragments_eq_feed` that the loop emits exactly that, whatever the callback.
-/

/-- A send callback over a state `σ`: whether it accepted the packet, and
the new state. -/
abbrev SendFrameCallback (σ : Type) := MediaChannelId → RtpPacket → σ → Bool × σ

namespace H264Source

variable {σ : Type}

/-- Hands one packet to the callback, if there is one. -/
def send (cb : Option (SendFrameCallback σ)) (ch : MediaChannelId) (pkt : RtpPacket)
    (s : σ) : Bool × σ :=
  match cb with
  | none => (true, s)
  | some f => f ch pkt s

/-- The packet of a frame that fits into one. -/
def singlePacket (heap : Block 1600) (frame : AVFrame) : Except Fault RtpPacket := do
  let data ← heap.memcpy (4 + rtpHeaderSize) frame.buffer 0 frame.size.toNat
  return { data := data
           size := frame.size + 4 + .ofNat rtpHeaderSize
           timestamp := frame.timestamp
           type := frame.type
           last := 1 }

/-- One FU-A packet: the two prefix bytes, then `len` bytes of the frame. -/
def fragmentPacket (heap : Block 1600) (frame : AVFrame) (fuA0 fuA1 : UInt8)
    (frameBuf len : ℕ) (size : UInt32) (last : UInt8) : Except Fault RtpPacket := do
  let data ← heap.store (rtpHeaderSize + 4) fuA0
  let data ← data.store (rtpHeaderSize + 5) fuA1
  let data ← data.memcpy (4 + rtpHeaderSize + 2) frame.buffer frameBuf len
  return { data := data
           size := size
           timestamp := frame.timestamp
           type := frame.type
           last := last }

/-- The bytes of the frame a full fragment carries. -/
def fragmentSize : ℕ := maxRtpPayloadSize - 2

/-- The fragmentation loop and the last fragment after it. `frameBuf` is how
far the frame pointer has advanced, `frameSize` what the code believes is
left, `k` how many packets were allocated before. -/
def fragments (cb : Option (SendFrameCallback σ)) (ch : MediaChannelId)
    (heap : ℕ → Block 1600) (frame : AVFrame) (fuA0 : UInt8) (k : ℕ) (fuA1 : UInt8)
    (frameBuf : ℕ) (frameSize : UInt32) (s : σ) : Except Fault (Bool × σ) :=
  if frameSize + 2 > .ofNat maxRtpPayloadSize then do
    let pkt ← fragmentPacket (heap k) frame fuA0 fuA1 frameBuf fragmentSize
      (.ofNat (4 + rtpHeaderSize + maxRtpPayloadSize)) 0
    match send cb ch pkt s with
    | (false, s') => return (false, s')
    | (true, s') =>
      -- the start flag goes after the first fragment
      fragments cb ch heap frame fuA0 (k + 1) (fuA1 &&& ~~~0x80)
        (frameBuf + fragmentSize) (frameSize - .ofNat fragmentSize) s'
  else do
    let pkt ← fragmentPacket (heap k) frame fuA0 (fuA1 ||| 0x40) frameBuf frameSize.toNat
      (.ofNat (4 + rtpHeaderSize + 2) + frameSize) 1
    return send cb ch pkt s
termination_by frameSize.toNat
decreasing_by
  rename_i h
  have h' : 1420 < (frameSize.toNat + 2) % 2 ^ 32 := by
    simpa [maxRtpPayloadSize, UInt32.lt_iff_toNat_lt] using h
  have hle : UInt32.ofNat fragmentSize ≤ frameSize := by
    rw [UInt32.le_iff_toNat_le]
    simp [fragmentSize, maxRtpPayloadSize]
    omega
  rw [UInt32.toNat_sub_of_le _ _ hle]
  simp [fragmentSize, maxRtpPayloadSize]
  omega

/-- The frame with the current time for a missing timestamp. -/
def stamped (now : UInt32) (frame : AVFrame) : AVFrame :=
  if frame.timestamp = 0 then { frame with timestamp := now } else frame

/-- `H264Source::handleFrame`. `now` is what `getTimestamp` would return. -/
def handleFrame (now : UInt32) (heap : ℕ → Block 1600)
    (cb : Option (SendFrameCallback σ)) (ch : MediaChannelId) (frame : AVFrame) (s : σ) :
    Except Fault (Bool × σ) :=
  let frame := stamped now frame
  if frame.size ≤ .ofNat maxRtpPayloadSize then do
    let pkt ← singlePacket (heap 0) frame
    return send cb ch pkt s
  else
    match frame.buffer with
    | [] => .error .outOfBounds
    | b :: _ =>
      fragments cb ch heap frame ((b &&& 0xE0) ||| 28) 0 (0x80 ||| (b &&& 0x1f)) 1
        (frame.size - 1) s

/-! ## What the packetizer emits -/

/-- Feeds a list of packets to the callback until it refuses one. -/
def feed (cb : Option (SendFrameCallback σ)) (ch : MediaChannelId) :
    List RtpPacket → σ → Bool × σ
  | [], s => (true, s)
  | pkt :: pkts, s =>
    match send cb ch pkt s with
    | (false, s') => (false, s')
    | (true, s') => feed cb ch pkts s'

/-- Feeding a last packet is sending it. -/
theorem feed_singleton (cb : Option (SendFrameCallback σ)) (ch : MediaChannelId)
    (pkt : RtpPacket) (s : σ) : feed cb ch [pkt] s = send cb ch pkt s := by
  rw [feed]
  rcases send cb ch pkt s with ⟨_ | _, s'⟩ <;> rfl

/-- **An always accepting callback sees every packet, in order.** -/
theorem feed_of_accepts {f : SendFrameCallback σ} (ch : MediaChannelId)
    (hf : ∀ pkt s, (f ch pkt s).1 = true) (pkts : List RtpPacket) (s : σ) :
    feed (some f) ch pkts s = (true, pkts.foldl (fun s pkt => (f ch pkt s).2) s) := by
  induction pkts generalizing s with
  | nil => rfl
  | cons pkt pkts ih =>
    have hsend : send (some f) ch pkt s = (true, (f ch pkt s).2) :=
      Prod.ext (hf pkt s) rfl
    rw [feed, hsend, List.foldl_cons]
    exact ih _

/-- The callback that accepts every packet and keeps them all. -/
def collect : SendFrameCallback (List RtpPacket) := fun _ pkt pkts => (true, pkts ++ [pkt])

theorem feed_collect (ch : MediaChannelId) (pkts acc : List RtpPacket) :
    feed (some collect) ch pkts acc = (true, acc ++ pkts) := by
  rw [feed_of_accepts ch (fun _ _ => rfl)]
  congr 1
  induction pkts generalizing acc with
  | nil => rw [List.foldl_nil, List.append_nil]
  | cons pkt pkts ih =>
    rw [List.foldl_cons, ih]
    exact List.append_assoc _ _ _

/-- A packet emitted for a frame, with its payload and its `last` mark: the
size ends the payload, timestamp and type are the frame's. -/
structure Emitted (frame : AVFrame) (pkt : RtpPacket) (payload : Bytes) (last : UInt8) :
    Prop where
  payload_eq : pkt.payload = payload
  size_eq : pkt.size.toNat = 16 + payload.length
  timestamp_eq : pkt.timestamp = frame.timestamp
  type_eq : pkt.type = frame.type
  last_eq : pkt.last = last

/-- **The packets of the fragmentation loop**, for the FU indicator `ind`,
the FU header `hdr` of the next packet and the bytes still to be sent: full
fragments with `last = 0`, each followed by the rest with the start flag
cleared, and one non-empty fragment with the end flag and `last = 1`. -/
inductive Fragmented (frame : AVFrame) (ind : UInt8) :
    UInt8 → Bytes → List RtpPacket → Prop where
  | last {hdr : UInt8} {rest : Bytes} {pkt : RtpPacket} :
      rest ≠ [] → rest.length ≤ fragmentSize →
      Emitted frame pkt (ind :: (hdr ||| 0x40) :: rest) 1 →
      Fragmented frame ind hdr rest [pkt]
  | more {hdr : UInt8} {c rest : Bytes} {pkt : RtpPacket} {pkts : List RtpPacket} :
      c.length = fragmentSize → Emitted frame pkt (ind :: hdr :: c) 0 →
      Fragmented frame ind (hdr &&& ~~~0x80) rest pkts →
      Fragmented frame ind hdr (c ++ rest) (pkt :: pkts)

/-- A frame of at most 1420 bytes, all in its buffer, becomes one packet. -/
theorem singlePacket_spec (heap : Block 1600) {frame : AVFrame}
    (hbuf : frame.buffer.length = frame.size.toNat) (hsize : frame.size.toNat ≤ 1420) :
    ∃ pkt, singlePacket heap frame = .ok pkt ∧ Emitted frame pkt frame.buffer 1 := by
  have hcopy := Block.memcpy_eq_ok heap
    (show 0 + frame.size.toNat ≤ frame.buffer.length by omega)
    (show 4 + rtpHeaderSize + frame.size.toNat ≤ 1600 by simp only [rtpHeaderSize]; omega)
  have htoNat : (frame.size + 4 + .ofNat rtpHeaderSize).toNat = 16 + frame.buffer.length := by
    have h4 : (4 : UInt32).toNat = 4 := rfl
    have h12 : (UInt32.ofNat rtpHeaderSize).toNat = 12 := rfl
    rw [UInt32.toNat_add, UInt32.toNat_add, h4, h12]
    omega
  have htake : (frame.buffer.drop 0).take frame.size.toNat = frame.buffer := by
    rw [List.drop_zero, List.take_of_length_le hbuf.le]
  refine ⟨_, by rw [singlePacket, hcopy]; rfl, ?_, htoNat, rfl, rfl, rfl⟩
  refine RtpPacket.payload_of_overwrite (d := heap) ?_ htoNat
  show overwrite heap.toList 16 ((frame.buffer.drop 0).take frame.size.toNat) = _
  rw [htake]

/-- A fragment whose bytes lie inside the frame's buffer carries them behind
its two prefix bytes. -/
theorem fragmentPacket_spec (heap : Block 1600) {frame : AVFrame} (fuA0 fuA1 : UInt8)
    {frameBuf len : ℕ} (size : UInt32) (last : UInt8)
    (hbuf : frameBuf + len ≤ frame.buffer.length) (hlen : len ≤ fragmentSize)
    (hsize : size.toNat = 18 + len) :
    ∃ pkt, fragmentPacket heap frame fuA0 fuA1 frameBuf len size last = .ok pkt
      ∧ Emitted frame pkt (fuA0 :: fuA1 :: (frame.buffer.drop frameBuf).take len) last := by
  have hlen' : len ≤ 1418 := hlen
  have hfrag : ((frame.buffer.drop frameBuf).take len).length = len := by
    rw [List.length_take, List.length_drop]
    omega
  have h0 := Block.store_eq_ok heap fuA0 (show rtpHeaderSize + 4 + 1 ≤ 1600 by decide)
  have h1 := fun b : Block 1600 =>
    Block.store_eq_ok b fuA1 (show rtpHeaderSize + 5 + 1 ≤ 1600 by decide)
  have h2 := fun b : Block 1600 => Block.memcpy_eq_ok b hbuf
    (show 4 + rtpHeaderSize + 2 + len ≤ 1600 by simp only [rtpHeaderSize]; omega)
  have htoNat : size.toNat
      = 16 + (fuA0 :: fuA1 :: (frame.buffer.drop frameBuf).take len).length := by
    rw [List.length_cons, List.length_cons, hfrag]
    omega
  refine ⟨_, by rw [fragmentPacket, h0, Except.ok_bind, h1, Except.ok_bind, h2]; rfl,
    ?_, htoNat, rfl, rfl, rfl⟩
  refine RtpPacket.payload_of_overwrite (d := heap) ?_ htoNat
  -- the three writes are adjacent
  have hw := heap.toList_length
  show overwrite (overwrite (overwrite heap.toList 16 [fuA0]) (16 + [fuA0].length) [fuA1])
    (16 + ([fuA0] ++ [fuA1]).length) _ = _
  rw [overwrite_overwrite (by simp only [List.length_singleton]; omega),
    overwrite_overwrite (by simp only [List.length_append, List.length_singleton]; omega)]
  rfl

/-- **The fragmentation loop emits the fragments of what is left**, whatever
the callback, as long as what the code believes is left is what is left and
the loop test does not wrap. -/
theorem fragments_eq_feed (heap : ℕ → Block 1600) (frame : AVFrame) (ind : UInt8) (n : ℕ) :
    ∀ (k : ℕ) (hdr : UInt8) (frameBuf : ℕ) (frameSize : UInt32), frameSize.toNat = n →
      frameBuf + n = frame.buffer.length → 0 < n → n + 2 < 2 ^ 32 →
      ∃ pkts, Fragmented frame ind hdr (frame.buffer.drop frameBuf) pkts
        ∧ ∀ {σ : Type} (cb : Option (SendFrameCallback σ)) (ch : MediaChannelId) (s : σ),
          fragments cb ch heap frame ind k hdr frameBuf frameSize s
            = .ok (feed cb ch pkts s) := by
  induction n using Nat.strong_induction_on with
  | _ n ih =>
    intro k hdr frameBuf frameSize hn hbuf hpos hlt
    have htest : frameSize + 2 > .ofNat maxRtpPayloadSize ↔ 1418 < n := by
      have h2 : (2 : UInt32).toNat = 2 := rfl
      have h1420 : (UInt32.ofNat maxRtpPayloadSize).toNat = 1420 := rfl
      rw [gt_iff_lt, UInt32.lt_iff_toNat_lt, UInt32.toNat_add, hn, h2, h1420]
      omega
    by_cases hmore : 1418 < n
    · have h1418 : (UInt32.ofNat fragmentSize).toNat = 1418 := rfl
      have hsub : (frameSize - .ofNat fragmentSize).toNat = n - 1418 := by
        rw [UInt32.toNat_sub_of_le, hn, h1418]
        rw [UInt32.le_iff_toNat_le, hn, h1418]
        exact hmore.le
      obtain ⟨pkt, hpkt, hemit⟩ := fragmentPacket_spec (heap k) ind hdr
        (.ofNat (4 + rtpHeaderSize + maxRtpPayloadSize)) 0
        (show frameBuf + fragmentSize ≤ frame.buffer.length by
          simp only [fragmentSize, maxRtpPayloadSize]; omega) le_rfl (by decide)
      obtain ⟨pkts, hpkts, hfeed⟩ := ih (n - 1418) (by omega) (k + 1) (hdr &&& ~~~0x80)
        (frameBuf + fragmentSize) _ hsub
        (by simp only [fragmentSize, maxRtpPayloadSize]; omega) (by omega) (by omega)
      refine ⟨pkt :: pkts, ?_, fun cb ch s => ?_⟩
      · rw [← List.take_append_drop fragmentSize (frame.buffer.drop frameBuf),
          List.drop_drop]
        refine .more ?_ hemit hpkts
        rw [List.length_take, List.length_drop]
        simp only [fragmentSize, maxRtpPayloadSize]
        omega
      · rw [fragments, if_pos (htest.mpr hmore), hpkt, Except.ok_bind, feed]
        rcases send cb ch pkt s with ⟨_ | _, s'⟩
        · rfl
        · exact hfeed cb ch s'
    · have hsize : ((.ofNat (4 + rtpHeaderSize + 2) : UInt32) + frameSize).toNat
          = 18 + frameSize.toNat := by
        have h18 : (UInt32.ofNat (4 + rtpHeaderSize + 2)).toNat = 18 := rfl
        rw [UInt32.toNat_add, hn, h18]
        omega
      obtain ⟨pkt, hpkt, hemit⟩ := fragmentPacket_spec (heap k) ind (hdr ||| 0x40)
        (.ofNat (4 + rtpHeaderSize + 2) + frameSize) 1
        (show frameBuf + frameSize.toNat ≤ frame.buffer.length by omega)
        (by rw [hn]; simp only [fragmentSize, maxRtpPayloadSize]; omega) hsize
      have hrest : (frame.buffer.drop frameBuf).length = n := by
        rw [List.length_drop]
        omega
      rw [List.take_of_length_le (by omega)] at hemit
      refine ⟨[pkt], .last ?_ ?_ hemit, fun cb ch s => ?_⟩
      · exact List.ne_nil_of_length_pos (by omega)
      · rw [hrest]
        simp only [fragmentSize, maxRtpPayloadSize]
        omega
      · rw [fragments, if_neg (by rwa [htest]), hpkt, Except.ok_bind, feed_singleton]
        rfl

/-- **The packets of a frame**: one packet that carries the frame, or the
fragments of what follows its first byte. -/
inductive PacketsOf (frame : AVFrame) : List RtpPacket → Prop where
  | single {pkt : RtpPacket} :
      frame.size.toNat ≤ 1420 → Emitted frame pkt frame.buffer 1 → PacketsOf frame [pkt]
  | fragmented {b : UInt8} {rest : Bytes} {pkts : List RtpPacket} :
      1420 < frame.size.toNat → frame.buffer = b :: rest →
      Fragmented frame ((b &&& 0xE0) ||| 28) (0x80 ||| (b &&& 0x1f)) rest pkts →
      PacketsOf frame pkts

@[simp] theorem buffer_stamped (now : UInt32) (frame : AVFrame) :
    (stamped now frame).buffer = frame.buffer := by
  unfold stamped
  split <;> rfl

@[simp] theorem size_stamped (now : UInt32) (frame : AVFrame) :
    (stamped now frame).size = frame.size := by
  unfold stamped
  split <;> rfl

/-- **The packetizer emits the packets of the frame**, whatever the
callback, for every size at which the loop test does not wrap. -/
theorem handleFrame_eq_feed (now : UInt32) (heap : ℕ → Block 1600) (frame : AVFrame)
    (hbuf : frame.buffer.length = frame.size.toNat) (hmax : frame.size.toNat + 1 < 2 ^ 32) :
    ∃ pkts, PacketsOf (stamped now frame) pkts
      ∧ ∀ {σ : Type} (cb : Option (SendFrameCallback σ)) (ch : MediaChannelId) (s : σ),
        handleFrame now heap cb ch frame s = .ok (feed cb ch pkts s) := by
  have hbuf' : (stamped now frame).buffer.length = (stamped now frame).size.toNat := by
    rw [buffer_stamped, size_stamped, hbuf]
  have h1420 : (UInt32.ofNat maxRtpPayloadSize).toNat = 1420 := rfl
  have htest : (stamped now frame).size ≤ .ofNat maxRtpPayloadSize
      ↔ frame.size.toNat ≤ 1420 := by
    rw [UInt32.le_iff_toNat_le, h1420, size_stamped]
  by_cases hle : frame.size.toNat ≤ 1420
  · obtain ⟨pkt, hpkt, hemit⟩ := singlePacket_spec (heap 0) hbuf' (by rwa [size_stamped])
    refine ⟨[pkt], .single (by rwa [size_stamped]) hemit, fun cb ch s => ?_⟩
    unfold handleFrame
    rw [if_pos (htest.mpr hle), hpkt, Except.ok_bind, feed_singleton]
    rfl
  · obtain ⟨b, rest, hb⟩ : ∃ b rest, frame.buffer = b :: rest :=
      List.exists_cons_of_length_pos (by omega)
    have hrest : 1 + rest.length = frame.size.toNat := by
      rw [← hbuf, hb, List.length_cons, Nat.add_comm]
    have hsub : ((stamped now frame).size - 1).toNat = rest.length := by
      have h1 : (1 : UInt32).toNat = 1 := rfl
      have hone : (1 : UInt32) ≤ frame.size := by
        rw [UInt32.le_iff_toNat_le, h1]
        omega
      rw [size_stamped, UInt32.toNat_sub_of_le _ _ hone, h1]
      omega
    obtain ⟨pkts, hfrag, hfeed⟩ := fragments_eq_feed heap (stamped now frame)
      ((b &&& 0xE0) ||| 28) rest.length 0 (0x80 ||| (b &&& 0x1f)) 1 _ hsub
      (by rw [buffer_stamped, hbuf, hrest]) (by omega) (by omega)
    rw [buffer_stamped, hb, List.drop_one, List.tail_cons] at hfrag
    refine ⟨pkts, .fragmented (by rw [size_stamped]; omega) (by rw [buffer_stamped, hb])
      hfrag, fun cb ch s => ?_⟩
    unfold handleFrame
    rw [if_neg (by rwa [htest]), buffer_stamped, hb]
    exact hfeed cb ch s

end H264Source
