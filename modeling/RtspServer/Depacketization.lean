import RtspServer.H264Source

/-!
# What a receiver makes of the packets

The packets of a frame are an encoding, and this module decodes them. The
payload format is the one of RFC 3984 in its two modes the packetizer uses:
a *single NAL unit packet* is the unit itself, and *FU-A* packets carry a
unit in pieces. Each piece stands behind an FU indicator, with the F and NRI
bits of the unit's header and type 28, and an FU header, with a start bit,
an end bit and the unit's type.

`depacketize` is the receiver as a state machine over payloads. The
encoding of a long frame is described by `FuAEncoding`, and
`H264Source.handleFrame_decodes` says that what the packetizer emits
decodes to the frame it was given.
-/

/-! ## The payload format -/

/-- The FU indicator of an FU-A payload. -/
def fuIndicator (payload : Bytes) : UInt8 := payload.getD 0 0

/-- The FU header of an FU-A payload. -/
def fuHeader (payload : Bytes) : UInt8 := payload.getD 1 0

/-- The piece of the unit an FU-A payload carries. -/
def fuFragment (payload : Bytes) : Bytes := payload.drop 2

/-- The start bit of an FU header. -/
def startBit (hdr : UInt8) : Bool := hdr &&& 0x80 == 0x80

/-- The end bit of an FU header. -/
def endBit (hdr : UInt8) : Bool := hdr &&& 0x40 == 0x40

/-- The type of a NAL unit, from its header byte. -/
def nalType (b : UInt8) : UInt8 := b &&& 0x1F

/-- The NAL unit header an FU indicator and an FU header stand for. -/
def rebuiltHeader (ind hdr : UInt8) : UInt8 := (ind &&& 0xE0) ||| (hdr &&& 0x1F)

/-- The state of a receiver: the unit being assembled, and the units
delivered so far. -/
structure Receiver where
  assembling : Option Bytes := none
  delivered : List Bytes := []
deriving DecidableEq, Repr

/-- **One payload received.** Types 1 to 23 are single NAL unit packets,
type 28 is FU-A, and a payload of another type is dropped. -/
def Receiver.receive (r : Receiver) (payload : Bytes) : Receiver :=
  match payload with
  | [] => r
  | ind :: rest =>
    if nalType ind = 28 then
      match rest with
      | [] => r
      | hdr :: c =>
        let unit := if startBit hdr then some (rebuiltHeader ind hdr :: c)
          else r.assembling.map (· ++ c)
        if endBit hdr then ⟨none, r.delivered ++ unit.toList⟩ else ⟨unit, r.delivered⟩
    else if 1 ≤ nalType ind ∧ nalType ind ≤ 23 then ⟨none, r.delivered ++ [payload]⟩
    else ⟨none, r.delivered⟩

/-- **Depacketization**: the NAL units a sequence of payloads delivers. -/
def depacketize (payloads : List Bytes) : List Bytes :=
  (payloads.foldl Receiver.receive {}).delivered

/-- **The FU-A encoding of a frame by two or more packets**: every packet
carries the prefix of the frame's header byte and a non-empty piece, the
header byte and the pieces are the frame, and the start and end bits mark
the first and the last packet. -/
structure FuAEncoding (frame : Bytes) (pkts : List RtpPacket) : Prop where
  two_le : 2 ≤ pkts.length
  indicator_bits : ∀ p ∈ pkts,
    fuIndicator p.payload &&& 0xE0 = frame.headD 0 &&& 0xE0
  indicator_type : ∀ p ∈ pkts, nalType (fuIndicator p.payload) = 28
  header_type : ∀ p ∈ pkts,
    fuHeader p.payload &&& 0x1F = frame.headD 0 &&& 0x1F
  fragment_ne_nil : ∀ p ∈ pkts, fuFragment p.payload ≠ []
  rebuilt : ∀ p ∈ pkts,
    rebuiltHeader (fuIndicator p.payload) (fuHeader p.payload)
      :: (pkts.map (fun p => fuFragment p.payload)).flatten = frame
  start_iff : ∀ i p, pkts[i]? = some p →
    (startBit (fuHeader p.payload) = true ↔ i = 0)
  end_iff : ∀ i p, pkts[i]? = some p →
    (endBit (fuHeader p.payload) = true ↔ i + 1 = pkts.length)
  not_both : ∀ p ∈ pkts,
    ¬(startBit (fuHeader p.payload) = true ∧ endBit (fuHeader p.payload) = true)

namespace H264Source

/-! ## Reading the fragments -/

section Fragments

variable {frame : AVFrame} {ind hdr : UInt8} {rest : Bytes} {pkts : List RtpPacket}

/-- Every fragment stands behind the FU indicator and an FU header, and none
is empty. -/
theorem Fragmented.payload_eq (h : Fragmented frame ind hdr rest pkts) :
    ∀ p ∈ pkts, ∃ hdr' c, p.payload = ind :: hdr' :: c ∧ c ≠ []
      ∧ c.length ≤ fragmentSize := by
  induction h with
  | last hne hlen hp =>
    intro p hmem
    obtain rfl := List.mem_singleton.mp hmem
    exact ⟨_, _, hp.payload_eq, hne, hlen⟩
  | more hc hp _ ih =>
    intro p hmem
    obtain rfl | hmem := List.mem_cons.mp hmem
    · refine ⟨_, _, hp.payload_eq, ?_, hc.le⟩
      exact List.ne_nil_of_length_pos (by rw [hc]; decide)
    · exact ih p hmem

/-- The loop emits at least one packet. -/
theorem Fragmented.length_pos (h : Fragmented frame ind hdr rest pkts) :
    0 < pkts.length := by
  cases h <;> simp

/-- More than one fragment's worth of bytes takes more than one packet. -/
theorem Fragmented.two_le (h : Fragmented frame ind hdr rest pkts)
    (hrest : fragmentSize < rest.length) : 2 ≤ pkts.length := by
  cases h with
  | last _ hlen _ => omega
  | more _ _ htail =>
    rw [List.length_cons]
    have := htail.length_pos
    omega

/-- The pieces are the bytes that were to be sent. -/
theorem Fragmented.flatten (h : Fragmented frame ind hdr rest pkts) :
    (pkts.map (fun p => fuFragment p.payload)).flatten = rest := by
  induction h with
  | last _ _ hp =>
    rw [List.map_singleton, hp.payload_eq, List.flatten_singleton]
    rfl
  | more _ hp _ ih =>
    rw [List.map_cons, hp.payload_eq, List.flatten_cons, ih]
    rfl

/-- **The FU header of the `i`-th fragment**: the initial one on the first
packet, without the start flag on the others, with the end flag on the
last. -/
theorem Fragmented.fuHeader_eq (h : Fragmented frame ind hdr rest pkts) :
    ∀ i p, pkts[i]? = some p → fuHeader p.payload
      = (if i = 0 then hdr else hdr &&& ~~~0x80)
        ||| (if i + 1 = pkts.length then 0x40 else 0) := by
  induction h with
  | last _ _ hp =>
    intro i p hi
    obtain ⟨rfl, rfl⟩ : i = 0 ∧ _ = p := by simpa [List.getElem?_singleton] using hi
    rw [hp.payload_eq]
    rfl
  | @more hdr c rest pkt pkts _ hp htail ih =>
    intro i p hi
    have hpos := htail.length_pos
    cases i with
    | zero =>
      obtain rfl : pkt = p := by simpa using hi
      have hne : ¬(0 + 1 = (pkt :: pkts).length) := by rw [List.length_cons]; omega
      rw [hp.payload_eq, if_pos rfl, if_neg hne, UInt8.or_zero]
      rfl
    | succ j =>
      rw [ih j p (by simpa using hi), List.length_cons, if_neg (Nat.succ_ne_zero j)]
      have hclear : hdr &&& ~~~0x80 &&& ~~~0x80 = hdr &&& ~~~0x80 := by
        rw [UInt8.and_assoc, UInt8.and_self]
      simp only [hclear, ite_self, Nat.add_right_cancel_iff]

/-- Only the last packet is marked `last`. -/
theorem Fragmented.last_eq (h : Fragmented frame ind hdr rest pkts) :
    ∀ i p, pkts[i]? = some p → p.last = if i + 1 = pkts.length then 1 else 0 := by
  induction h with
  | last _ _ hp =>
    intro i p hi
    obtain ⟨rfl, rfl⟩ : i = 0 ∧ _ = p := by simpa [List.getElem?_singleton] using hi
    exact hp.last_eq
  | @more hdr c rest pkt pkts _ hp htail ih =>
    intro i p hi
    have hpos := htail.length_pos
    cases i with
    | zero =>
      obtain rfl : pkt = p := by simpa using hi
      have hne : ¬(0 + 1 = (pkt :: pkts).length) := by rw [List.length_cons]; omega
      rw [hp.last_eq, if_neg hne]
    | succ j =>
      rw [ih j p (by simpa using hi), List.length_cons]
      simp only [Nat.add_right_cancel_iff]

/-- Every fragment carries the frame's timestamp and type, and its size ends
its payload. -/
theorem Fragmented.emitted (h : Fragmented frame ind hdr rest pkts) :
    ∀ p ∈ pkts, Emitted frame p p.payload p.last := by
  have hall : ∀ {p : RtpPacket} {payload : Bytes} {last : UInt8},
      Emitted frame p payload last → Emitted frame p p.payload p.last :=
    fun hp => ⟨rfl, hp.payload_eq ▸ hp.size_eq, hp.timestamp_eq, hp.type_eq, rfl⟩
  induction h with
  | last _ _ hp =>
    intro p hmem
    obtain rfl := List.mem_singleton.mp hmem
    exact hall hp
  | more _ hp _ ih =>
    intro p hmem
    obtain rfl | hmem := List.mem_cons.mp hmem
    · exact hall hp
    · exact ih p hmem

end Fragments

/-! ## The bits of the two prefix bytes -/

/-- The FU indicator keeps the upper three bits of the frame's first byte and
has type 28; the byte is its upper three bits and its lower five. -/
theorem indicator_spec (b : UInt8) : ((b &&& 0xE0) ||| 28) &&& 0xE0 = b &&& 0xE0 ∧
    nalType ((b &&& 0xE0) ||| 28) = 28 ∧ (b &&& 0xE0) ||| (b &&& 0x1F) = b :=
  forall_byte (P := fun b => ((b &&& 0xE0) ||| 28) &&& 0xE0 = b &&& 0xE0 ∧
    nalType ((b &&& 0xE0) ||| 28) = 28 ∧ (b &&& 0xE0) ||| (b &&& 0x1F) = b) (by decide +kernel) b

/-- The FU header of a packet: the type of the frame's first byte, and the
two flags. -/
def flaggedHeader (b : UInt8) (start last : Bool) : UInt8 :=
  (if start then 0x80 ||| (b &&& 0x1f) else (0x80 ||| (b &&& 0x1f)) &&& ~~~0x80)
    ||| (if last then 0x40 else 0)

theorem flaggedHeader_spec (b : UInt8) : ∀ start last,
    flaggedHeader b start last &&& 0x1F = b &&& 0x1F ∧
    startBit (flaggedHeader b start last) = start ∧
    endBit (flaggedHeader b start last) = last :=
  forall_byte (P := fun b => ∀ start last, flaggedHeader b start last &&& 0x1F = b &&& 0x1F ∧
    startBit (flaggedHeader b start last) = start ∧
    endBit (flaggedHeader b start last) = last) (by decide +kernel) b

theorem startBit_flaggedHeader (start last : Bool) (b : UInt8) :
    startBit (flaggedHeader b start last) = start := (flaggedHeader_spec b start last).2.1

theorem endBit_flaggedHeader (start last : Bool) (b : UInt8) :
    endBit (flaggedHeader b start last) = last := (flaggedHeader_spec b start last).2.2

/-- The upper bits of the indicator and the lower bits of the header are the
byte they were taken from. -/
theorem rebuiltHeader_flaggedHeader (start last : Bool) (b : UInt8) :
    rebuiltHeader ((b &&& 0xE0) ||| 28) (flaggedHeader b start last) = b := by
  obtain ⟨hupper, -, hbyte⟩ := indicator_spec b
  unfold rebuiltHeader
  rw [hupper, (flaggedHeader_spec b start last).1]
  exact hbyte

/-- Setting the end bit, and clearing the start bit, changes no other bit. -/
theorem header_spec (hdr : UInt8) : startBit (hdr ||| 0x40) = startBit hdr ∧
    endBit (hdr ||| 0x40) = true ∧ startBit (hdr &&& ~~~0x80) = false ∧
    endBit (hdr &&& ~~~0x80) = endBit hdr ∧ (hdr ||| 0x40) &&& 0x1F = hdr &&& 0x1F :=
  forall_byte (P := fun h => startBit (h ||| 0x40) = startBit h ∧
    endBit (h ||| 0x40) = true ∧ startBit (h &&& ~~~0x80) = false ∧
    endBit (h &&& ~~~0x80) = endBit h ∧ (h ||| 0x40) &&& 0x1F = h &&& 0x1F) (by decide +kernel) hdr

theorem startBit_setEnd (hdr : UInt8) : startBit (hdr ||| 0x40) = startBit hdr :=
  (header_spec hdr).1

theorem endBit_setEnd (hdr : UInt8) : endBit (hdr ||| 0x40) = true := (header_spec hdr).2.1

theorem startBit_clearStart (hdr : UInt8) : startBit (hdr &&& ~~~0x80) = false :=
  (header_spec hdr).2.2.1

theorem endBit_clearStart (hdr : UInt8) : endBit (hdr &&& ~~~0x80) = endBit hdr :=
  (header_spec hdr).2.2.2.1

theorem rebuiltHeader_setEnd (ind hdr : UInt8) :
    rebuiltHeader ind (hdr ||| 0x40) = rebuiltHeader ind hdr := by
  unfold rebuiltHeader
  rw [(header_spec hdr).2.2.2.2]

/-! ## The encoding of a frame -/

/-- **The packets of a long frame are its FU-A encoding.** -/
theorem Fragmented.fuAEncoding {frame : AVFrame} {b : UInt8} {rest : Bytes}
    {pkts : List RtpPacket}
    (h : Fragmented frame ((b &&& 0xE0) ||| 28) (0x80 ||| (b &&& 0x1f)) rest pkts)
    (hrest : fragmentSize < rest.length) : FuAEncoding (b :: rest) pkts := by
  have htwo : 2 ≤ pkts.length := h.two_le hrest
  have hhdr : ∀ i p, pkts[i]? = some p → fuHeader p.payload
      = flaggedHeader b (decide (i = 0)) (decide (i + 1 = pkts.length)) := by
    intro i p hi
    rw [h.fuHeader_eq i p hi]
    simp only [flaggedHeader, decide_eq_true_eq]
  have hmem : ∀ p ∈ pkts, ∃ start last,
      fuIndicator p.payload = (b &&& 0xE0) ||| 28
        ∧ fuHeader p.payload = flaggedHeader b start last := by
    intro p hp
    obtain ⟨hdr, c, hpay, -, -⟩ := h.payload_eq p hp
    obtain ⟨i, hi⟩ := List.mem_iff_getElem?.mp hp
    exact ⟨_, _, by rw [hpay]; rfl, hhdr i p hi⟩
  have hstart : ∀ i p, pkts[i]? = some p →
      (startBit (fuHeader p.payload) = true ↔ i = 0) := by
    intro i p hi
    rw [hhdr i p hi, startBit_flaggedHeader, decide_eq_true_eq]
  have hend : ∀ i p, pkts[i]? = some p →
      (endBit (fuHeader p.payload) = true ↔ i + 1 = pkts.length) := by
    intro i p hi
    rw [hhdr i p hi, endBit_flaggedHeader, decide_eq_true_eq]
  refine ⟨htwo, ?_, ?_, ?_, ?_, ?_, hstart, hend, ?_⟩
  · intro p hp
    obtain ⟨start, last, hind, -⟩ := hmem p hp
    rw [hind, (indicator_spec b).1]
    rfl
  · intro p hp
    obtain ⟨start, last, hind, -⟩ := hmem p hp
    rw [hind, (indicator_spec b).2.1]
  · intro p hp
    obtain ⟨start, last, -, hhd⟩ := hmem p hp
    rw [hhd, (flaggedHeader_spec b _ _).1]
    rfl
  · intro p hp
    obtain ⟨hdr, c, hpay, hne, -⟩ := h.payload_eq p hp
    rw [hpay]
    exact hne
  · intro p hp
    obtain ⟨start, last, hind, hhd⟩ := hmem p hp
    rw [hind, hhd, rebuiltHeader_flaggedHeader, h.flatten]
  · rintro p hp ⟨hs, he⟩
    obtain ⟨i, hi⟩ := List.mem_iff_getElem?.mp hp
    have h0 := (hstart i p hi).mp hs
    have hlast := (hend i p hi).mp he
    omega

/-- **What `handleFrame` emits decodes to the frame.** With a callback that
accepts every packet, a frame of 1 to `2 ^ 31 - 1` bytes becomes either one
packet whose payload is the frame, or an FU-A encoding of it. All packets
carry one timestamp and one type, only the final one is marked `last`, and
every size lies between 16 and `16 + 1420`. -/
theorem handleFrame_decodes (now : UInt32) (heap : ℕ → Block 1600) (ch : MediaChannelId)
    (frame : AVFrame) (hpos : 1 ≤ frame.size.toNat) (hmax : frame.size.toNat ≤ 2 ^ 31 - 1)
    (hbuf : frame.buffer.length = frame.size.toNat) :
    ∃ pkts : List RtpPacket,
      (∀ {σ : Type} (f : SendFrameCallback σ), (∀ pkt s, (f ch pkt s).1 = true) → ∀ s,
        handleFrame now heap (some f) ch frame s
          = .ok (true, pkts.foldl (fun s pkt => (f ch pkt s).2) s))
      ∧ pkts ≠ []
      ∧ (pkts.length = 1 → ∀ p ∈ pkts, p.payload = frame.buffer)
      ∧ (2 ≤ pkts.length → FuAEncoding frame.buffer pkts)
      ∧ (∃ ts ty, ∀ p ∈ pkts, p.timestamp = ts ∧ p.type = ty)
      ∧ (∀ i p, pkts[i]? = some p → p.last = if i + 1 = pkts.length then 1 else 0)
      ∧ ∀ p ∈ pkts, 16 < p.size.toNat ∧ p.size.toNat ≤ 16 + 1420 := by
  obtain ⟨pkts, hpkts, hfeed⟩ := handleFrame_eq_feed now heap frame hbuf (by omega)
  refine ⟨pkts, fun f hf s => by rw [hfeed, feed_of_accepts ch hf], ?_⟩
  cases hpkts with
  | @single pkt hle hemit =>
    rw [buffer_stamped] at hemit
    rw [size_stamped] at hle
    have hsize : pkt.size.toNat = 16 + frame.size.toNat := by rw [hemit.size_eq, hbuf]
    refine ⟨List.cons_ne_nil _ _, ?_, ?_,
      ⟨(stamped now frame).timestamp, (stamped now frame).type, ?_⟩, ?_, ?_⟩
    · intro _ p hp
      obtain rfl := List.mem_singleton.mp hp
      exact hemit.payload_eq
    · intro h
      simp at h
    · intro p hp
      obtain rfl := List.mem_singleton.mp hp
      exact ⟨hemit.timestamp_eq, hemit.type_eq⟩
    · intro i p hi
      obtain ⟨rfl, rfl⟩ : i = 0 ∧ pkt = p := by simpa [List.getElem?_singleton] using hi
      exact hemit.last_eq
    · intro p hp
      obtain rfl := List.mem_singleton.mp hp
      omega
  | @fragmented b rest _ hlong hb hfrag =>
    rw [buffer_stamped] at hb
    rw [size_stamped] at hlong
    have hrest : 1420 ≤ rest.length := by
      rw [hb, List.length_cons] at hbuf
      omega
    have henc := hfrag.fuAEncoding (by
      simp only [fragmentSize, maxRtpPayloadSize]; omega)
    have hlen := henc.two_le
    refine ⟨List.ne_nil_of_length_pos (by omega), fun h => ?_, fun _ => hb ▸ henc,
      ⟨(stamped now frame).timestamp, (stamped now frame).type, fun p hp => ?_⟩,
      hfrag.last_eq, fun p hp => ?_⟩
    · omega
    · have hemit := hfrag.emitted p hp
      exact ⟨hemit.timestamp_eq, hemit.type_eq⟩
    · obtain ⟨hdr, c, hpay, hne, hc⟩ := hfrag.payload_eq p hp
      have hc' : c.length ≤ 1418 := hc
      have hcpos := List.length_pos_of_ne_nil hne
      rw [(hfrag.emitted p hp).size_eq, hpay, List.length_cons, List.length_cons]
      omega

/-- A frame of 3000 bytes. -/
def longFrame : AVFrame := ⟨0x65 :: List.replicate 2999 0x88, 3000, 1, 0⟩

theorem length_longFrame : longFrame.buffer.length = longFrame.size.toNat := by
  show (0x65 :: List.replicate 2999 (0x88 : UInt8)).length = 3000
  rw [List.length_cons, List.length_replicate]

/-- **A frame of 3000 bytes goes out in fragments**: a packet has no room for it. -/
theorem handleFrame_decodes_longFrame : ∃ pkts : List RtpPacket,
    (∀ {σ : Type} (f : SendFrameCallback σ), (∀ pkt s, (f .channel0 pkt s).1 = true) → ∀ s,
      handleFrame 7 (fun _ => Block.filled 1600 0) (some f) .channel0 longFrame s
        = .ok (true, pkts.foldl (fun s pkt => (f .channel0 pkt s).2) s)) ∧
    FuAEncoding longFrame.buffer pkts ∧
    ∀ i p, pkts[i]? = some p → p.last = if i + 1 = pkts.length then 1 else 0 := by
  obtain ⟨pkts, hsent, hne, hwhole, hfragments, -, hlast, hsize⟩ :=
    handleFrame_decodes 7 (fun _ => Block.filled 1600 0) .channel0 longFrame
      (by decide) (by decide) length_longFrame
  refine ⟨pkts, hsent, hfragments ?_, hlast⟩
  by_contra hshort
  have hpos := List.length_pos_iff.mpr hne
  have hone : pkts.length = 1 := by omega
  obtain ⟨pkt, rfl⟩ := List.length_eq_one_iff.mp hone
  have hmem : pkt ∈ [pkt] := List.mem_singleton_self pkt
  -- the payload of the one packet would be the frame
  have hlength : pkt.payload.length = 3000 := by
    rw [hwhole hone pkt hmem, length_longFrame]
    rfl
  have hle : pkt.payload.length ≤ pkt.size.toNat - 16 := by
    unfold RtpPacket.payload
    rw [List.length_drop, List.length_take]
    omega
  have hroom := (hsize pkt hmem).2
  omega

/-! ## The receiver -/

section Receiver

variable {frame : AVFrame} {ind hdr : UInt8} {rest : Bytes} {pkts : List RtpPacket}

/-- An FU-A payload at the receiver. -/
theorem receive_fuA (hind : nalType ind = 28) (r : Receiver) (hdr : UInt8) (c : Bytes) :
    r.receive (ind :: hdr :: c)
      = if endBit hdr then
          ⟨none, r.delivered ++ (if startBit hdr then some (rebuiltHeader ind hdr :: c)
            else r.assembling.map (· ++ c)).toList⟩
        else ⟨if startBit hdr then some (rebuiltHeader ind hdr :: c)
          else r.assembling.map (· ++ c), r.delivered⟩ := by
  simp only [Receiver.receive, if_pos hind]

/-- The fragments behind the first one complete the unit being assembled. -/
theorem Fragmented.foldl_receive (h : Fragmented frame ind hdr rest pkts)
    (hind : nalType ind = 28) (hs : startBit hdr = false) (he : endBit hdr = false)
    (u : Bytes) (d : List Bytes) :
    (pkts.map RtpPacket.payload).foldl Receiver.receive ⟨some u, d⟩
      = ⟨none, d ++ [u ++ rest]⟩ := by
  induction h generalizing u with
  | last _ _ hp =>
    rw [List.map_singleton, List.foldl_cons, List.foldl_nil, hp.payload_eq,
      receive_fuA hind, endBit_setEnd, startBit_setEnd, hs]
    rfl
  | more _ hp _ ih =>
    rw [List.map_cons, List.foldl_cons, hp.payload_eq, receive_fuA hind, he, hs]
    rw [← List.append_assoc]
    exact ih (startBit_clearStart _) (by rw [endBit_clearStart, he]) _

/-- **The fragments of a frame deliver the frame**, whatever the receiver
was doing before. -/
theorem Fragmented.foldl_receive_start (h : Fragmented frame ind hdr rest pkts)
    (hind : nalType ind = 28) (hs : startBit hdr = true) (he : endBit hdr = false)
    (r : Receiver) :
    (pkts.map RtpPacket.payload).foldl Receiver.receive r
      = ⟨none, r.delivered ++ [rebuiltHeader ind hdr :: rest]⟩ := by
  cases h with
  | last _ _ hp =>
    rw [List.map_singleton, List.foldl_cons, List.foldl_nil, hp.payload_eq,
      receive_fuA hind, endBit_setEnd, startBit_setEnd, hs, rebuiltHeader_setEnd]
    rfl
  | more _ hp htail =>
    rw [List.map_cons, List.foldl_cons, hp.payload_eq, receive_fuA hind, he, hs]
    exact htail.foldl_receive hind (startBit_clearStart _) (by rw [endBit_clearStart, he])
      _ _

/-- The packets of a long frame deliver the frame, as one unit. -/
theorem Fragmented.depacketize_eq {b : UInt8}
    (h : Fragmented frame ((b &&& 0xE0) ||| 28) (0x80 ||| (b &&& 0x1f)) rest pkts) :
    depacketize (pkts.map RtpPacket.payload) = [b :: rest] := by
  have hhdr : 0x80 ||| (b &&& 0x1f) = flaggedHeader b true false := by
    rw [flaggedHeader, if_pos rfl, if_neg Bool.false_ne_true, UInt8.or_zero]
  rw [hhdr] at h
  unfold depacketize
  rw [h.foldl_receive_start (indicator_spec b).2.1 (startBit_flaggedHeader _ _ _)
    (endBit_flaggedHeader _ _ _), rebuiltHeader_flaggedHeader]
  rfl

/-- **Round trip through a receiver.** The packets of a NAL unit, which
starts with a header byte of type 1 to 23, deliver that unit and nothing
else. -/
theorem PacketsOf.depacketize_eq {b : UInt8} (h : PacketsOf frame pkts)
    (hb : frame.buffer.head? = some b) (htype : 1 ≤ nalType b ∧ nalType b ≤ 23) :
    depacketize (pkts.map RtpPacket.payload) = [frame.buffer] := by
  cases h with
  | single _ hemit =>
    obtain ⟨c, hc⟩ := List.head?_eq_some_iff.mp hb
    have hne : nalType b ≠ 28 := by
      intro h28
      rw [h28] at htype
      exact absurd htype.2 (by decide)
    rw [List.map_singleton, hemit.payload_eq, hc]
    simp only [depacketize, List.foldl_cons, List.foldl_nil, Receiver.receive, if_neg hne,
      if_pos htype]
    rfl
  | fragmented _ hbuf hfrag =>
    rw [hfrag.depacketize_eq, hbuf]

end Receiver

end H264Source
