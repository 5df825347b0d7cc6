import RtspServer.RtspReader
import RtspServer.Interleaved

/-!
# Interleaved frames that a client sends

`handleRtcp` is to drop a frame that stands at the front of the buffer, and to
wait for a frame that is not whole. The length of the frame is put together
from two signed characters, and the comparison with what is there is the wrong
way round. What it drops is right for a frame that is all there is in the
buffer, with two length bytes below 0x80, and what it leaves is right for a
frame that is not whole when its last length byte is 0xfc or more, or when
only its header is there; in all other cases it is wrong (`skipsFrame_iff`).
-/

/-! ## The length -/

/-- A character as an `int`: its value below 0x80, negative from there on. -/
theorem toNat_signExtend (b : UInt8) : (b.toBitVec.signExtend 32).toNat
    = if b < 0x80 then b.toNat else 4294967040 + b.toNat := by
  have hb := b.toNat_lt
  have hmsb : b.toBitVec.msb = decide (0x80 ≤ b.toNat) := BitVec.msb_eq_decide b.toBitVec
  have hwide : (b.toBitVec.setWidth 32).toNat = b.toNat := by
    rw [BitVec.toNat_setWidth]
    exact Nat.mod_eq_of_lt (by omega)
  rw [BitVec.toNat_signExtend, hwide, hmsb]
  by_cases hlt : b.toNat < 0x80
  · rw [if_pos (show b < 0x80 from hlt), if_neg (by simpa using hlt)]
    rfl
  · rw [if_neg (show ¬ b < 0x80 from hlt), if_pos (by simpa using hlt)]
    exact Nat.add_comm ..

/-- A last character that is not negative leaves the first one as it is. -/
theorem rtcpSize_of_lt {hi lo : UInt8} (h : lo < 0x80) : (rtcpSize hi lo).toNat
    = (hi.toBitVec.signExtend 32).toNat * 256 % 4294967296 + lo.toNat := by
  have hlo : (lo.toBitVec.signExtend 32).toNat = lo.toNat := by
    rw [toNat_signExtend, if_pos h]
  have hmul : ∀ n, n * 256 % 4294967296 = (n % 16777216) <<< 8 := fun n => by
    rw [Nat.shiftLeft_eq]
    exact Nat.mul_mod_mul_right 256 n 16777216
  show ((hi.toBitVec.signExtend 32) <<< 8 ||| lo.toBitVec.signExtend 32).toNat = _
  rw [BitVec.toNat_or, BitVec.toNat_shiftLeft, hlo, Nat.shiftLeft_eq, hmul,
    Nat.shiftLeft_add_eq_or_of_lt lo.toNat_lt]

/-- A negative last character sets all bits of the first one. -/
theorem rtcpSize_of_le {hi lo : UInt8} (h : ¬ lo < 0x80) :
    (rtcpSize hi lo).toNat = 4294967040 + lo.toNat := by
  have hmsb : lo.toBitVec.msb = true := by
    rw [BitVec.msb_eq_decide]
    exact decide_eq_true (Nat.le_of_not_lt h)
  have hbit : ∀ i, i < 32 → ¬ i < 8 → (lo.toBitVec.signExtend 32).getLsbD i = true := by
    intro i hi hlow
    rw [BitVec.getLsbD_signExtend, if_neg hlow, hmsb, decide_eq_true hi]
    rfl
  have hall : (hi.toBitVec.signExtend 32) <<< 8 ||| lo.toBitVec.signExtend 32
      = lo.toBitVec.signExtend 32 := by
    refine BitVec.eq_of_getLsbD_eq fun i hi => ?_
    rw [BitVec.getLsbD_or, BitVec.getLsbD_shiftLeft]
    by_cases hlow : i < 8
    · simp [hlow]
    · rw [hbit i hi hlow, Bool.or_true]
  show ((hi.toBitVec.signExtend 32) <<< 8 ||| lo.toBitVec.signExtend 32).toNat = _
  rw [hall, toNat_signExtend, if_neg h]

namespace RtspReader

/-- What `handleRtcp` compares with the number of bytes that are there. -/
def rtcpLength (hi lo : UInt8) : ℕ := (rtcpSize hi lo + 4).toNat

theorem rtcpRetrieve_cons (channel hi lo : UInt8) (rest : Bytes) :
    rtcpRetrieve (0x24 :: channel :: hi :: lo :: rest) =
      if rest ≠ [] ∧ rest.length + 4 ≤ rtcpLength hi lo then some (rtcpLength hi lo) else none := by
  have hmore : rest ≠ [] ↔ 4 < (0x24 :: channel :: hi :: lo :: rest).length := by
    rw [← List.length_pos_iff]
    simp only [List.length_cons]
    omega
  unfold rtcpRetrieve
  simp only [hmore, true_and]
  rfl

/-- **The length is right for two characters that are not negative**, less
than a header for a last one of 0xfc or more, and beyond all frames
otherwise. -/
theorem rtcpLength_cases (hi lo : UInt8) :
    (hi < 0x80 ∧ lo < 0x80 → rtcpLength hi lo = hi.toNat * 256 + lo.toNat + 4) ∧
    (0xfc ≤ lo → rtcpLength hi lo < 4) ∧
    (¬ (hi < 0x80 ∧ lo < 0x80) → ¬ 0xfc ≤ lo → 4294934528 ≤ rtcpLength hi lo) := by
  have hhi := hi.toNat_lt
  have hlo := lo.toNat_lt
  have hsum : rtcpLength hi lo = ((rtcpSize hi lo).toNat + 4) % 4294967296 :=
    UInt32.toNat_add (rtcpSize hi lo) 4
  have hhi' : hi < 0x80 ↔ hi.toNat < 128 := UInt8.lt_iff_toNat_lt
  have hlo' : lo < 0x80 ↔ lo.toNat < 128 := UInt8.lt_iff_toNat_lt
  have htop : 0xfc ≤ lo ↔ 252 ≤ lo.toNat := UInt8.le_iff_toNat_le
  by_cases hneg : lo < 0x80
  · rw [hsum, rtcpSize_of_lt hneg, toNat_signExtend]
    by_cases hpos : hi < 0x80
    · rw [if_pos hpos]
      rw [hlo'] at hneg ⊢
      rw [hhi'] at hpos ⊢
      rw [htop]
      omega
    · rw [if_neg hpos]
      rw [hlo'] at hneg ⊢
      rw [hhi'] at hpos ⊢
      rw [htop]
      omega
  · rw [hsum, rtcpSize_of_le hneg, htop]
    rw [hlo'] at hneg ⊢
    omega

/-! ## The frame -/

/-- **A frame is dropped when it is whole and waited for when it is not**, and
no more is taken from the buffer than there is. The frame is that of the
interleaved stream: a `$`, the channel, and two bytes for the length of what
follows, the high one first. -/
structure SkipsFrame (buf : Buffer) : Prop where
  whole : ∀ f rest, Interleaved.readFrame buf = some (f, rest) → handleRtcp buf = rest
  incomplete : Interleaved.readFrame buf = none → handleRtcp buf = buf
  retrieve_le : ∀ len, rtcpRetrieve buf = some len → len ≤ buf.length

/-- **When `handleRtcp` does this**: the frame is not whole, and its last
length byte is 0xfc or more or nothing follows its header; or it is all there
is and not empty, with length bytes that are no negative characters. The source
puts the length together from signed characters and compares it the wrong way
round. So a frame that is whole is dropped only when the buffer ends with it,
and one that is not is waited for only when nothing but its header is there, or
when the sign of its last length byte makes the sum wrap. -/
def Skippable : Buffer → Prop
  | _ :: _ :: hi :: lo :: rest =>
    let length := hi.toNat * 256 + lo.toNat
    rest.length < length ∧ (rest = [] ∨ 0xfc ≤ lo) ∨
      rest.length = length ∧ rest ≠ [] ∧ hi < 0x80 ∧ lo < 0x80
  | _ => True

/-- The buffer is left as it is, or emptied. -/
theorem handleRtcp_cons (channel hi lo : UInt8) (rest : Bytes) :
    handleRtcp (0x24 :: channel :: hi :: lo :: rest) =
      if rest ≠ [] ∧ rest.length + 4 ≤ rtcpLength hi lo then []
      else 0x24 :: channel :: hi :: lo :: rest := by
  unfold handleRtcp
  rw [rtcpRetrieve_cons]
  by_cases h : rest ≠ [] ∧ rest.length + 4 ≤ rtcpLength hi lo
  · rw [if_pos h, if_pos h]
    dsimp only
    rw [Buffer.retrieve_eq_drop]
    exact List.drop_of_length_le h.2
  · rw [if_neg h, if_neg h]

/-- A whole frame is skipped when it is all there is, and its length is read
right. -/
theorem skipsFrame_cons_of_le {channel hi lo : UInt8} {rest : Bytes}
    (h : hi.toNat * 256 + lo.toNat ≤ rest.length) :
    SkipsFrame (0x24 :: channel :: hi :: lo :: rest) ↔
      rest ≠ [] ∧ rest.length = hi.toNat * 256 + lo.toNat ∧ rtcpLength hi lo = rest.length + 4 := by
  have hread : Interleaved.readFrame (0x24 :: channel :: hi :: lo :: rest)
      = some (⟨channel, rest.take (hi.toNat * 256 + lo.toNat)⟩,
        rest.drop (hi.toNat * 256 + lo.toNat)) := if_pos ⟨rfl, h⟩
  constructor
  · intro hskip
    have hrest := hskip.whole _ _ hread
    rw [handleRtcp_cons] at hrest
    by_cases hretrieve : rest ≠ [] ∧ rest.length + 4 ≤ rtcpLength hi lo
    · rw [if_pos hretrieve] at hrest
      have hlength := congrArg List.length hrest
      have hle := hskip.retrieve_le _ ((rtcpRetrieve_cons ..).trans (if_pos hretrieve))
      rw [List.length_drop, List.length_nil] at hlength
      simp only [List.length_cons] at hle
      exact ⟨hretrieve.1, by omega, by omega⟩
    · rw [if_neg hretrieve] at hrest
      have hlength := congrArg List.length hrest
      rw [List.length_drop] at hlength
      simp only [List.length_cons] at hlength
      omega
  · rintro ⟨hne, hlength, hlen⟩
    have hretrieve : rest ≠ [] ∧ rest.length + 4 ≤ rtcpLength hi lo := ⟨hne, hlen.ge⟩
    refine ⟨fun f tail hf => ?_, fun hnone => ?_, fun len hsome => ?_⟩
    · rw [hread] at hf
      cases hf
      rw [handleRtcp_cons, if_pos hretrieve, List.drop_of_length_le hlength.le]
    · rw [hread] at hnone
      cases hnone
    · rw [rtcpRetrieve_cons, if_pos hretrieve] at hsome
      cases hsome
      exact hlen.le

/-- A frame that is not whole is waited for when nothing is retrieved. -/
theorem skipsFrame_cons_of_lt {channel hi lo : UInt8} {rest : Bytes}
    (h : rest.length < hi.toNat * 256 + lo.toNat) :
    SkipsFrame (0x24 :: channel :: hi :: lo :: rest) ↔
      ¬ (rest ≠ [] ∧ rest.length + 4 ≤ rtcpLength hi lo) := by
  have hread : Interleaved.readFrame (0x24 :: channel :: hi :: lo :: rest) = none :=
    if_neg fun hlong => Nat.not_le_of_lt h hlong.2
  constructor
  · intro hskip hretrieve
    have hrest := hskip.incomplete hread
    rw [handleRtcp_cons, if_pos hretrieve] at hrest
    cases hrest
  · intro hretrieve
    refine ⟨fun f tail hf => ?_, fun _ => ?_, fun len hsome => ?_⟩
    · rw [hread] at hf
      cases hf
    · rw [handleRtcp_cons, if_neg hretrieve]
    · rw [rtcpRetrieve_cons, if_neg hretrieve] at hsome
      cases hsome

/-- A buffer with a header, by the length that is read. -/
theorem skipsFrame_cons_iff (channel hi lo : UInt8) (rest : Bytes) :
    SkipsFrame (0x24 :: channel :: hi :: lo :: rest) ↔
      Skippable (0x24 :: channel :: hi :: lo :: rest) := by
  have hhi := hi.toNat_lt
  have hlo := lo.toNat_lt
  obtain ⟨hright, hsmall, hlarge⟩ := rtcpLength_cases hi lo
  dsimp only [Skippable]
  rcases Nat.lt_or_ge rest.length (hi.toNat * 256 + lo.toNat) with hlt | hle
  · -- not whole: the length that is read must be too small
    rw [skipsFrame_cons_of_lt hlt, not_and, Nat.not_le]
    constructor
    · intro h
      refine .inl ⟨hlt, or_iff_not_imp_left.mpr fun hne => ?_⟩
      have hless := h hne
      by_contra htop
      by_cases hboth : hi < 0x80 ∧ lo < 0x80
      · rw [hright hboth] at hless
        omega
      · have := hlarge hboth htop
        omega
    · rintro (⟨-, rfl | htop⟩ | ⟨heq, -⟩) hne
      · exact absurd rfl hne
      · have := hsmall htop
        omega
      · omega
  · -- whole: the length that is read must be that of the frame
    rw [skipsFrame_cons_of_le hle]
    constructor
    · rintro ⟨hne, heq, hlen⟩
      have hboth : hi < 0x80 ∧ lo < 0x80 := by
        by_contra hboth
        by_cases htop : 0xfc ≤ lo
        · have := hsmall htop
          omega
        · have := hlarge hboth htop
          omega
      exact .inr ⟨heq, hne, hboth⟩
    · rintro (⟨hlt, -⟩ | ⟨heq, hne, hboth⟩)
      · omega
      · exact ⟨hne, heq, by rw [hright hboth, heq]⟩

/-- **A frame is skipped exactly when it is `Skippable`.** Buffers of fewer than
four bytes are frames that are not whole, and are left as they are; for the others
the length which the source computes is compared with that of the frame. -/
theorem skipsFrame_iff {buf : Buffer} (hhead : buf.head? = some 0x24) :
    SkipsFrame buf ↔ Skippable buf := by
  have hshort : ∀ {buf : Buffer}, Interleaved.readFrame buf = none → rtcpRetrieve buf = none →
      SkipsFrame buf := by
    intro buf hread hretrieve
    refine ⟨fun f rest hf => ?_, fun _ => ?_, fun len hlen => ?_⟩
    · rw [hread] at hf
      cases hf
    · rw [handleRtcp, hretrieve]
    · rw [hretrieve] at hlen
      cases hlen
  obtain ⟨bs, rfl⟩ := List.head?_eq_some_iff.mp hhead
  rcases bs with _ | ⟨channel, _ | ⟨hi, _ | ⟨lo, rest⟩⟩⟩
  · exact iff_of_true (hshort rfl rfl) trivial
  · exact iff_of_true (hshort rfl rfl) trivial
  · exact iff_of_true (hshort rfl rfl) trivial
  · exact skipsFrame_cons_iff channel hi lo rest

/-- A frame of one byte, alone. -/
theorem skipsFrame_iff_oneByte : SkipsFrame [0x24, 1, 0, 1, 0xaa] :=
  (skipsFrame_iff rfl).mpr (.inr ⟨rfl, by decide, by decide, by decide⟩)

/-- **A frame of one byte in front of a request is left in its way.** -/
theorem not_skipsFrame_ahead :
    ¬ ∀ buf : Buffer, buf.head? = some 0x24 → SkipsFrame buf := by
  intro h
  have hframe : handleRtcp [0x24, 1, 0, 1, 0xaa, 0x4f] = [0x4f] :=
    (h [0x24, 1, 0, 1, 0xaa, 0x4f] rfl).whole ⟨1, [0xaa]⟩ _ rfl
  exact absurd hframe (by decide)

end RtspReader
