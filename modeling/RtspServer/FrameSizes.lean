import RtspServer.Transmissions

/-!
# Frames of every size

`H264Source::handleFrame` is given the size of a frame as a `uint32_t`, and
cuts off what it sends until at most 1418 bytes are left. The loop test adds
the two bytes of the FU-A prefix to what is left, and the sum wraps: of a frame
of `2 ^ 32 - 1` bytes it sees nothing left after the first byte, and all the
rest goes into the last fragment.

That is the one size for which a copy leaves its array. For every other size
the call ends, every copy reads inside the frame and writes inside the packet,
and no packet is longer than its buffer (`packetized_inBounds_iff`).
-/

namespace H264Source

/-- **The call keeps to its arrays**: it returns, with the packets it makes
given to the callback, and none of these is longer than its buffer. A copy
past the frame or past a packet would end it with a fault. -/
def InBounds (now : UInt32) (heap : ℕ → Block 1600) (frame : AVFrame) : Prop :=
  ∃ pkts : List RtpPacket, (∀ pkt ∈ pkts, pkt.size.toNat ≤ 1600) ∧
    ∀ {σ : Type} (cb : Option (SendFrameCallback σ)) (ch : MediaChannelId) (s : σ),
      handleFrame now heap cb ch frame s = .ok (feed cb ch pkts s)

/-- The largest size. -/
def maxFrameSize : UInt32 := 4294967295

/-- A frame of any other size is one at which the loop test does not wrap. -/
theorem toNat_add_one_lt {size : UInt32} (h : size ≠ maxFrameSize) :
    size.toNat + 1 < 2 ^ 32 := by
  have hlt := size.toNat_lt
  have hne : size.toNat ≠ 4294967295 := fun heq => h (UInt32.toNat_inj.mp heq)
  omega

/-- A fragment that is longer than the packet behind its prefix is not
copied. -/
theorem fragmentPacket_of_lt (heap : Block 1600) (frame : AVFrame) (fuA0 fuA1 : UInt8)
    (frameBuf : ℕ) {len : ℕ} (size : UInt32) (last : UInt8) (hlen : 1582 < len) :
    fragmentPacket heap frame fuA0 fuA1 frameBuf len size last = .error .outOfBounds := by
  have h0 := Block.store_eq_ok heap fuA0 (show rtpHeaderSize + 4 + 1 ≤ 1600 by decide)
  have h1 := fun b : Block 1600 =>
    Block.store_eq_ok b fuA1 (show rtpHeaderSize + 5 + 1 ≤ 1600 by decide)
  have h2 : ∀ b : Block 1600, b.memcpy (4 + rtpHeaderSize + 2) frame.buffer frameBuf len
      = .error .outOfBounds := by
    intro b
    refine dif_neg fun h => ?_
    have hdst : 4 + 12 + 2 + len ≤ 1600 := h.2
    omega
  rw [fragmentPacket, h0, Except.ok_bind, h1, Except.ok_bind, h2]
  rfl

/-- **A frame of the largest size** leaves its packet: what is left after its
first byte goes into one fragment. -/
theorem handleFrame_maxFrameSize {σ : Type} (now : UInt32) (heap : ℕ → Block 1600)
    (cb : Option (SendFrameCallback σ)) (ch : MediaChannelId) {frame : AVFrame}
    (hsize : frame.size = maxFrameSize) (s : σ) :
    handleFrame now heap cb ch frame s = .error .outOfBounds := by
  have hmany : ¬ (stamped now frame).size ≤ .ofNat maxRtpPayloadSize := by
    rw [size_stamped, hsize]
    decide
  have hrest : ¬ maxFrameSize - 1 + 2 > .ofNat maxRtpPayloadSize := by decide
  have hlen : 1582 < (maxFrameSize - 1).toNat := by decide
  unfold handleFrame
  rw [if_neg hmany, size_stamped, hsize]
  cases (stamped now frame).buffer with
  | nil => rfl
  | cons b rest =>
    dsimp only
    rw [fragments, if_neg hrest, fragmentPacket_of_lt _ _ _ _ _ _ _ hlen]
    rfl

/-- A frame of that size is not. -/
theorem InBounds.ne_maxFrameSize {now : UInt32} {heap : ℕ → Block 1600} {frame : AVFrame}
    (h : InBounds now heap frame) : frame.size ≠ maxFrameSize := by
  intro hsize
  obtain ⟨pkts, -, hfeed⟩ := h
  have hfault := handleFrame_maxFrameSize now heap none .channel0 hsize ()
  rw [hfeed] at hfault
  cases hfault

/-- **A frame is packetized inside its arrays exactly when** it has not the
largest size. To what is left of that after the first byte the loop test adds two,
and gets 0; for every smaller size the sum is right, and the loop cuts off pieces
until the rest fits. -/
theorem packetized_inBounds_iff (now : UInt32) (heap : ℕ → Block 1600) {frame : AVFrame}
    (hbuf : frame.buffer.length = frame.size.toNat) :
    InBounds now heap frame ↔ frame.size ≠ maxFrameSize := by
  refine ⟨InBounds.ne_maxFrameSize, fun hsize => ?_⟩
  obtain ⟨pkts, hmedia, hfeed⟩ := handleFrame_isMedia now heap frame hbuf (toNat_add_one_lt hsize)
  exact ⟨pkts, fun pkt hpkt => (hmedia pkt hpkt).size_le, hfeed⟩

/-- A frame of 3000 bytes, which goes out in three packets. -/
theorem inBounds_threePackets : InBounds 0 (fun _ => Block.filled 1600 0)
    { buffer := List.replicate 3000 0x65, size := 3000 } := by
  have hbuf : (List.replicate 3000 (0x65 : UInt8)).length = (3000 : UInt32).toNat :=
    List.length_replicate
  exact (packetized_inBounds_iff 0 _ hbuf).mpr (by decide)

/-- **A frame of `2 ^ 32 - 1` bytes** is copied past its packet. -/
theorem not_inBounds_maxFrameSize : ¬ ∀ (now : UInt32) (heap : ℕ → Block 1600) (frame : AVFrame),
    frame.buffer.length = frame.size.toNat → InBounds now heap frame := by
  intro h
  have hbuf : (List.replicate 4294967295 (0x65 : UInt8)).length = maxFrameSize.toNat :=
    List.length_replicate
  have hinside : InBounds 0 (fun _ => Block.filled 1600 0)
      { buffer := List.replicate 4294967295 0x65, size := maxFrameSize } := h 0 _ _ hbuf
  exact hinside.ne_maxFrameSize rfl

end H264Source
