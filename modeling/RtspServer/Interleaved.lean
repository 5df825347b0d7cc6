import RtspServer.Memory

/-!
# Interleaved frames

Binary data on a stream that also carries text goes in frames: the byte
`'$'`, a channel, the length as two bytes in network order, and that many
bytes. `read` takes a stream apart into frames, and fails on anything that is
not a sequence of whole frames. Frames of at most 65535 bytes are read back
(`read_encode`).
-/

namespace Interleaved

/-- A frame: channel and data. -/
structure Frame where
  channel : UInt8
  data : Bytes
deriving DecidableEq

/-- The frame as it is sent. -/
def encode (f : Frame) : Bytes :=
  [0x24, f.channel, .ofNat (f.data.length / 256), .ofNat f.data.length] ++ f.data

/-- The first frame of a stream, and what follows it. -/
def readFrame : Bytes → Option (Frame × Bytes)
  | b :: channel :: hi :: lo :: rest =>
    let length := hi.toNat * 256 + lo.toNat
    if b = 0x24 ∧ length ≤ rest.length then some (⟨channel, rest.take length⟩, rest.drop length)
    else none
  | _ => none

/-- The frames of a stream, at most `fuel` many. -/
def readFrames : ℕ → Bytes → Option (List Frame)
  | _, [] => some []
  | 0, _ => none
  | fuel + 1, bytes =>
    match readFrame bytes with
    | none => none
    | some (f, rest) => (readFrames fuel rest).map (f :: ·)

/-- **The reader**: all frames, with nothing left over. -/
def read (bytes : Bytes) : Option (List Frame) := readFrames bytes.length bytes

/-- The bytes are one frame. -/
def IsFrame (bytes : Bytes) : Prop := ∃ f, readFrame bytes = some (f, [])

theorem readFrame_encode {f : Frame} (h : f.data.length < 65536) (rest : Bytes) :
    readFrame (encode f ++ rest) = some (f, rest) := by
  have hlength : (UInt8.ofNat (f.data.length / 256)).toNat * 256
      + (UInt8.ofNat f.data.length).toNat = f.data.length := by
    simp only [UInt8.toNat_ofNat']
    omega
  have hcons : encode f ++ rest = 0x24 :: f.channel :: .ofNat (f.data.length / 256)
      :: .ofNat f.data.length :: (f.data ++ rest) := rfl
  have hle : f.data.length ≤ (f.data ++ rest).length := by
    rw [List.length_append]
    exact Nat.le_add_right _ _
  rw [hcons, readFrame, hlength, if_pos ⟨rfl, hle⟩, List.take_left, List.drop_left]

/-- A frame alone is read with nothing left over. -/
theorem readFrame_encode_alone {f : Frame} (h : f.data.length < 65536) :
    readFrame (encode f) = some (f, []) := by
  rw [← List.append_nil (encode f)]
  exact readFrame_encode h []

/-- Reading a frame's encoding in front of a stream. -/
theorem readFrames_encode_append {f : Frame} (h : f.data.length < 65536) (fuel : ℕ)
    (rest : Bytes) :
    readFrames (fuel + 1) (encode f ++ rest) = (readFrames fuel rest).map (f :: ·) := by
  show (match readFrame (encode f ++ rest) with
    | none => none
    | some (f, rest) => (readFrames fuel rest).map (f :: ·)) = _
  rw [readFrame_encode h]

/-- More fuel does no harm. -/
theorem readFrames_encode (fs : List Frame) : ∀ {fuel : ℕ}, fs.length ≤ fuel →
    (∀ f ∈ fs, f.data.length < 65536) → readFrames fuel (fs.flatMap encode) = some fs := by
  induction fs with
  | nil =>
    intro fuel _ _
    cases fuel <;> rfl
  | cons f fs ih =>
    intro fuel hfuel h
    obtain ⟨hf, h⟩ := List.forall_mem_cons.mp h
    cases fuel with
    | zero => cases hfuel
    | succ fuel =>
      rw [List.flatMap_cons, readFrames_encode_append hf, ih (Nat.le_of_succ_le_succ hfuel) h]
      rfl

/-- **Frames are read back**, with nothing left over. -/
theorem read_encode {fs : List Frame} (h : ∀ f ∈ fs, f.data.length < 65536) :
    read (fs.flatMap encode) = some fs := by
  refine readFrames_encode fs ?_ h
  induction fs with
  | nil => exact Nat.zero_le _
  | cons f fs ih =>
    have hfs := ih fun g hg => h g (List.mem_cons_of_mem _ hg)
    have hencode : 1 ≤ (encode f).length := by
      unfold encode
      rw [List.length_append]
      exact Nat.le_trans (show 1 ≤ 4 by decide) (Nat.le_add_right 4 _)
    rw [List.flatMap_cons, List.length_append, List.length_cons]
    omega

end Interleaved
