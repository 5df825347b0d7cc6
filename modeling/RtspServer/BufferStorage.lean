import RtspServer.Buffer
import RtspServer.Transition

/-!
# The storage of `muduo::net::Buffer`

A buffer keeps its bytes in a vector, between two indices: what stands in front
of `readerIndex` has been consumed, what stands behind `writerIndex` is room for
more. The parser of this development works on the bytes between the indices
only; this module is about the vector.

Appending makes room first, either by moving the readable bytes to the front of
the vector or by enlarging it, and a read from a socket that brings more than
there is room for goes through a second array on the stack. None of this is
seen from outside: `Buffer.readable_of_run` says that in every run of the
operations the bytes between the indices are what the operations say they
should be. `Buffer.length_le_of_run` bounds the vector by what it had to hold.
-/

namespace Muduo

/-- `Buffer::kCheapPrepend`. -/
def kCheapPrepend : ℕ := 8

/-- `Buffer::kInitialSize`. -/
def kInitialSize : ℕ := 1024

/-- The size of `extrabuf` in `readFd`. -/
def extrabufSize : ℕ := 65536

/-- A vector with the two indices in it. -/
structure Buffer where
  buffer : Bytes
  readerIndex : ℕ
  writerIndex : ℕ
  reader_le : readerIndex ≤ writerIndex
  writer_le : writerIndex ≤ buffer.length
  prepend_le : kCheapPrepend ≤ buffer.length

namespace Buffer

def readableBytes (b : Buffer) : ℕ := b.writerIndex - b.readerIndex

def writableBytes (b : Buffer) : ℕ := b.buffer.length - b.writerIndex

def prependableBytes (b : Buffer) : ℕ := b.readerIndex

/-- The bytes between the indices, which `peek` points to. -/
def readable (b : Buffer) : Bytes := (b.buffer.take b.writerIndex).drop b.readerIndex

/-- `Buffer(initialSize)`. -/
def ofSize (initialSize : ℕ) : Buffer where
  buffer := List.replicate (kCheapPrepend + initialSize) 0
  readerIndex := kCheapPrepend
  writerIndex := kCheapPrepend
  reader_le := le_refl _
  writer_le := by rw [List.length_replicate]; omega
  prepend_le := by rw [List.length_replicate]; omega

theorem length_readable (b : Buffer) : b.readable.length = b.readableBytes := by
  unfold readable readableBytes
  rw [List.length_drop, List.length_take_of_le b.writer_le]

/-- The three parts of the vector. -/
theorem length_eq (b : Buffer) :
    b.buffer.length = b.prependableBytes + b.readableBytes + b.writableBytes := by
  have hr := b.reader_le
  have hw := b.writer_le
  unfold prependableBytes readableBytes writableBytes
  omega

@[simp] theorem readable_ofSize (n : ℕ) : (ofSize n).readable = [] :=
  List.drop_eq_nil_of_le (List.length_take_le _ _)

/-! ## Taking bytes out -/

def retrieveAll (b : Buffer) : Buffer :=
  { b with
    readerIndex := kCheapPrepend
    writerIndex := kCheapPrepend
    reader_le := le_refl _
    writer_le := b.prepend_le }

/-- The argument is not checked: asked for more than there is, the buffer is
emptied. -/
def retrieve (b : Buffer) (len : ℕ) : Buffer :=
  if h : len < b.readableBytes then
    { b with
      readerIndex := b.readerIndex + len
      reader_le := by unfold readableBytes at h; omega }
  else b.retrieveAll

/-- Giving back bytes that were written last. -/
def unwrite (b : Buffer) (len : ℕ) (h : len ≤ b.readableBytes) : Buffer :=
  { b with
    writerIndex := b.writerIndex - len
    reader_le := by have := b.reader_le; unfold readableBytes at h; omega
    writer_le := by have := b.writer_le; omega }

@[simp] theorem readable_retrieveAll (b : Buffer) : b.retrieveAll.readable = [] :=
  List.drop_eq_nil_of_le (List.length_take_le _ _)

/-- **Taking bytes out leaves the others.** -/
theorem readable_retrieve (b : Buffer) (len : ℕ) :
    (b.retrieve len).readable = b.readable.drop len := by
  unfold retrieve
  by_cases h : len < b.readableBytes
  · rw [dif_pos h]
    show (b.buffer.take b.writerIndex).drop (b.readerIndex + len) = _
    rw [← List.drop_drop]
    rfl
  · rw [dif_neg h, readable_retrieveAll]
    exact (List.drop_eq_nil_of_le (by rw [length_readable]; omega)).symm

theorem readable_unwrite (b : Buffer) (len : ℕ) (h : len ≤ b.readableBytes) :
    (b.unwrite len h).readable = b.readable.take (b.readableBytes - len) := by
  have hr := b.reader_le
  unfold readableBytes at h
  show (b.buffer.take (b.writerIndex - len)).drop b.readerIndex
    = ((b.buffer.take b.writerIndex).drop b.readerIndex).take (b.writerIndex - b.readerIndex - len)
  rw [List.take_drop, List.take_take]
  congr 2
  omega

/-! ## Making room -/

/-- `vector::resize`, which fills with zeros. -/
def resize (l : Bytes) (n : ℕ) : Bytes := l.take n ++ List.replicate (n - l.length) 0

theorem length_resize (l : Bytes) (n : ℕ) : (resize l n).length = n := by
  unfold resize
  rw [List.length_append, List.length_take, List.length_replicate]
  omega

theorem take_resize {l : Bytes} {k n : ℕ} (hk : k ≤ n) (hl : k ≤ l.length) :
    (resize l n).take k = l.take k := by
  unfold resize
  rw [List.take_append_of_le_length (by rw [List.length_take]; omega), List.take_take,
    Nat.min_eq_left hk]

/-- Enlarging the vector, or moving the readable bytes to its front. It is
called where there is not enough room. -/
def makeSpace (b : Buffer) (len : ℕ) (h : b.writableBytes < len) : Buffer :=
  if hsize : b.writableBytes + b.prependableBytes < len + kCheapPrepend then
    { b with
      buffer := resize b.buffer (b.writerIndex + len)
      writer_le := by rw [length_resize]; omega
      prepend_le := by
        have := b.prepend_le
        rw [length_resize]
        unfold writableBytes at h
        omega }
  else
    { buffer := copyWithin b.buffer b.readerIndex kCheapPrepend b.readableBytes
      readerIndex := kCheapPrepend
      writerIndex := kCheapPrepend + b.readableBytes
      reader_le := by omega
      writer_le := by have := b.length_eq; rw [length_copyWithin]; omega
      prepend_le := by rw [length_copyWithin]; exact b.prepend_le }

def ensureWritableBytes (b : Buffer) (len : ℕ) : Buffer :=
  if h : b.writableBytes < len then b.makeSpace len h else b

theorem makeSpace_of_lt {b : Buffer} {len : ℕ} (h : b.writableBytes < len)
    (hsize : b.writableBytes + b.prependableBytes < len + kCheapPrepend) :
    (b.makeSpace len h).buffer = resize b.buffer (b.writerIndex + len)
      ∧ (b.makeSpace len h).readerIndex = b.readerIndex
      ∧ (b.makeSpace len h).writerIndex = b.writerIndex := by
  rw [makeSpace, dif_pos hsize]
  exact ⟨rfl, rfl, rfl⟩

/-- **The bytes are moved forwards only where they do not overwrite bytes still
to be moved.** Where the vector has room enough in all, but not behind the
readable bytes, these start behind the place they are moved to: the assertion
`kCheapPrepend < readerIndex_` holds. -/
theorem kCheapPrepend_lt_readerIndex {b : Buffer} {len : ℕ} (h : b.writableBytes < len)
    (hsize : ¬ b.writableBytes + b.prependableBytes < len + kCheapPrepend) :
    kCheapPrepend < b.readerIndex := by
  unfold prependableBytes at hsize
  omega

theorem makeSpace_of_not_lt {b : Buffer} {len : ℕ} (h : b.writableBytes < len)
    (hsize : ¬ b.writableBytes + b.prependableBytes < len + kCheapPrepend) :
    (b.makeSpace len h).buffer = overwrite b.buffer kCheapPrepend b.readable
      ∧ (b.makeSpace len h).readerIndex = kCheapPrepend
      ∧ (b.makeSpace len h).writerIndex = kCheapPrepend + b.readableBytes := by
  have hplace := kCheapPrepend_lt_readerIndex h hsize
  have hlen := b.length_eq
  unfold prependableBytes at hlen
  rw [makeSpace, dif_neg hsize]
  refine ⟨?_, rfl, rfl⟩
  show copyWithin b.buffer b.readerIndex kCheapPrepend b.readableBytes = _
  rw [copyWithin_eq _ _ _ _ hplace.le (by omega)]
  exact congrArg _ List.drop_take.symm

/-- **Making room loses nothing**, and makes as much room as was asked for. -/
theorem ensureWritableBytes_spec (b : Buffer) (len : ℕ) :
    (b.ensureWritableBytes len).readable = b.readable
      ∧ len ≤ (b.ensureWritableBytes len).writableBytes := by
  unfold ensureWritableBytes
  by_cases h : b.writableBytes < len
  · rw [dif_pos h]
    by_cases hsize : b.writableBytes + b.prependableBytes < len + kCheapPrepend
    · obtain ⟨hbuf, hr, hw⟩ := makeSpace_of_lt h hsize
      unfold readable writableBytes
      rw [hbuf, hr, hw, length_resize, take_resize (by omega) b.writer_le]
      exact ⟨rfl, by omega⟩
    · obtain ⟨hbuf, hr, hw⟩ := makeSpace_of_not_lt h hsize
      have hlen := b.length_eq
      have hread := b.length_readable
      have hfits : kCheapPrepend + b.readable.length ≤ b.buffer.length := by omega
      constructor
      · unfold readable
        rw [hbuf, hr, hw, List.drop_take, Nat.add_sub_cancel_left, ← hread]
        exact take_drop_overwrite b.prepend_le
      · unfold writableBytes
        rw [hbuf, hw, length_overwrite hfits]
        omega
  · rw [dif_neg h]
    exact ⟨rfl, by omega⟩

/-- The vector stays, or is enlarged where it had not room enough in all. -/
theorem length_ensureWritableBytes (b : Buffer) (len : ℕ) :
    (b.ensureWritableBytes len).buffer.length = b.buffer.length
      ∨ ((b.ensureWritableBytes len).buffer.length = b.writerIndex + len
        ∧ b.readerIndex + b.writableBytes < len + kCheapPrepend) := by
  unfold ensureWritableBytes
  by_cases h : b.writableBytes < len
  · rw [dif_pos h]
    by_cases hsize : b.writableBytes + b.prependableBytes < len + kCheapPrepend
    · rw [(makeSpace_of_lt h hsize).1, length_resize]
      exact .inr ⟨rfl, by unfold prependableBytes at hsize; omega⟩
    · have hlen := b.length_eq
      have hread := b.length_readable
      rw [(makeSpace_of_not_lt h hsize).1, length_overwrite (by omega)]
      exact .inl rfl
  · rw [dif_neg h]
    exact .inl rfl

/-- Room in front is given up only down to `kCheapPrepend` bytes. -/
theorem readerIndex_ensureWritableBytes (b : Buffer) (len : ℕ) :
    min kCheapPrepend b.readerIndex ≤ (b.ensureWritableBytes len).readerIndex := by
  unfold ensureWritableBytes
  by_cases h : b.writableBytes < len
  · rw [dif_pos h]
    by_cases hsize : b.writableBytes + b.prependableBytes < len + kCheapPrepend
    · rw [(makeSpace_of_lt h hsize).2.1]
      exact min_le_right _ _
    · rw [(makeSpace_of_not_lt h hsize).2.1]
      exact min_le_left _ _
  · rw [dif_neg h]
    exact min_le_right _ _

/-! ## Putting bytes in -/

/-- Bytes copied to `beginWrite()` and reported by `hasWritten`. -/
def write (b : Buffer) (data : Bytes) (h : data.length ≤ b.writableBytes) : Buffer :=
  have hfits : b.writerIndex + data.length ≤ b.buffer.length := by
    have := b.writer_le
    unfold writableBytes at h
    omega
  { b with
    buffer := overwrite b.buffer b.writerIndex data
    writerIndex := b.writerIndex + data.length
    reader_le := b.reader_le.trans (Nat.le_add_right _ _)
    writer_le := by rwa [length_overwrite hfits]
    prepend_le := by rw [length_overwrite hfits]; exact b.prepend_le }

def append (b : Buffer) (data : Bytes) : Buffer :=
  (b.ensureWritableBytes data.length).write data (b.ensureWritableBytes_spec data.length).2

def prepend (b : Buffer) (data : Bytes) (h : data.length ≤ b.prependableBytes) : Buffer :=
  have hfits : b.readerIndex - data.length + data.length ≤ b.buffer.length := by
    rw [Nat.sub_add_cancel (show data.length ≤ b.readerIndex from h)]
    exact b.reader_le.trans b.writer_le
  { b with
    buffer := overwrite b.buffer (b.readerIndex - data.length) data
    readerIndex := b.readerIndex - data.length
    reader_le := (Nat.sub_le _ _).trans b.reader_le
    writer_le := by rw [length_overwrite hfits]; exact b.writer_le
    prepend_le := by rw [length_overwrite hfits]; exact b.prepend_le }

/-- A new buffer with the same bytes and `reserve` bytes of room. -/
def shrink (b : Buffer) (reserve : ℕ) : Buffer :=
  ((ofSize kInitialSize).ensureWritableBytes (b.readableBytes + reserve)).append b.readable

/-- How much `readv` is given room for: the room in the vector and, where this
is small, `extrabuf`. -/
def readvLen (b : Buffer) : ℕ :=
  if b.writableBytes < extrabufSize then b.writableBytes + extrabufSize else b.writableBytes

/-- `readFd` where `readv` delivers `data`: first into the vector, and what does
not fit into `extrabuf`, from where it is appended. -/
def readFd (b : Buffer) (data : Bytes) : Buffer :=
  if h : data.length ≤ b.writableBytes then b.write data h
  else
    (b.write (data.take b.writableBytes) (List.length_take_le _ _)).append
      (data.drop b.writableBytes)

theorem readable_write (b : Buffer) (data : Bytes) (h : data.length ≤ b.writableBytes) :
    (b.write data h).readable = b.readable ++ data := by
  have hw : (b.buffer.take b.writerIndex).length = b.writerIndex :=
    List.length_take_of_le b.writer_le
  have hall : (b.buffer.take b.writerIndex ++ data).length = b.writerIndex + data.length := by
    rw [List.length_append, hw]
  have hnew : (overwrite b.buffer b.writerIndex data).take (b.writerIndex + data.length)
      = b.buffer.take b.writerIndex ++ data := by
    unfold overwrite
    rw [List.take_append_of_le_length hall.ge, List.take_of_length_le hall.le]
  show ((overwrite b.buffer b.writerIndex data).take (b.writerIndex + data.length)).drop
    b.readerIndex = _
  rw [hnew, List.drop_append_of_le_length (by rw [hw]; exact b.reader_le)]
  rfl

/-- **What is appended stands behind what was there.** -/
theorem readable_append (b : Buffer) (data : Bytes) :
    (b.append data).readable = b.readable ++ data := by
  rw [append, readable_write, (b.ensureWritableBytes_spec data.length).1]

theorem readable_prepend (b : Buffer) (data : Bytes) (h : data.length ≤ b.prependableBytes) :
    (b.prepend data h).readable = data ++ b.readable := by
  have hr := b.reader_le
  have hw := b.writer_le
  have h' : data.length ≤ b.readerIndex := h
  show ((overwrite b.buffer (b.readerIndex - data.length) data).take b.writerIndex).drop
    (b.readerIndex - data.length) = _
  rw [List.drop_take, drop_overwrite (by omega), Nat.sub_add_cancel h',
    show b.writerIndex - (b.readerIndex - data.length)
      = data.length + (b.writerIndex - b.readerIndex) by omega, List.take_length_add_append]
  exact congrArg _ List.drop_take.symm

theorem readable_shrink (b : Buffer) (reserve : ℕ) : (b.shrink reserve).readable = b.readable := by
  rw [shrink, readable_append, (ensureWritableBytes_spec _ _).1, readable_ofSize, List.nil_append]

/-- **A read appends what it brings**, wherever `readv` has put it. -/
theorem readable_readFd (b : Buffer) (data : Bytes) :
    (b.readFd data).readable = b.readable ++ data := by
  unfold readFd
  by_cases h : data.length ≤ b.writableBytes
  · rw [dif_pos h, readable_write]
  · rw [dif_neg h, readable_append, readable_write, List.append_assoc, List.take_append_drop]

/-! ## Runs of operations -/

/-- The operations. `write` copies bytes to `beginWrite()` and reports them,
`readFd` is a read that delivers the bytes given. -/
inductive Op where
  | append (data : Bytes)
  | retrieve (len : ℕ)
  | retrieveAll
  | unwrite (len : ℕ)
  | write (data : Bytes)
  | prepend (data : Bytes)
  | ensureWritableBytes (len : ℕ)
  | shrink (reserve : ℕ)
  | readFd (data : Bytes)

/-- One operation. It fails where it would put an index outside the vector or
past the other one, and a read that brings more than there is room for does not
happen. -/
def exec (b : Buffer) : Op → Except Fault Buffer
  | .append data => .ok (b.append data)
  | .retrieve len => .ok (b.retrieve len)
  | .retrieveAll => .ok b.retrieveAll
  | .unwrite len => if h : len ≤ b.readableBytes then .ok (b.unwrite len h) else .error .outOfBounds
  | .write data =>
    if h : data.length ≤ b.writableBytes then .ok (b.write data h) else .error .outOfBounds
  | .prepend data =>
    if h : data.length ≤ b.prependableBytes then .ok (b.prepend data h) else .error .outOfBounds
  | .ensureWritableBytes len => .ok (b.ensureWritableBytes len)
  | .shrink reserve => .ok (b.shrink reserve)
  | .readFd data => if data.length ≤ b.readvLen then .ok (b.readFd data) else .error .outOfBounds

namespace Op

/-- What an operation does to the bytes of a buffer. -/
def apply (bs : Bytes) : Op → Bytes
  | .append data => bs ++ data
  | .retrieve len => bs.drop len
  | .retrieveAll => []
  | .unwrite len => bs.take (bs.length - len)
  | .write data => bs ++ data
  | .prepend data => data ++ bs
  | .ensureWritableBytes _ => bs
  | .shrink _ => bs
  | .readFd data => bs ++ data

/-- How many bytes a buffer of `n` bytes has to hold, or is asked to have room
for, with an operation. -/
def need (n : ℕ) : Op → ℕ
  | .append data => n + data.length
  | .ensureWritableBytes len => n + len
  | .shrink reserve => n + reserve
  | .readFd data => n + data.length
  | _ => 0

/-- How many bytes an operation puts in front. -/
def inFront : Op → ℕ
  | .prepend data => data.length
  | _ => 0

end Op

/-- The runs of operations on a new buffer. -/
def system (initialSize : ℕ) : System Buffer Op :=
  System.ofStep (· = ofSize initialSize) exec

/-- The results of the operations. -/
inductive Executes (b : Buffer) : Op → Buffer → Prop where
  | append (data : Bytes) : Executes b (.append data) (b.append data)
  | retrieve (len : ℕ) : Executes b (.retrieve len) (b.retrieve len)
  | retrieveAll : Executes b .retrieveAll b.retrieveAll
  | unwrite (len : ℕ) (h : len ≤ b.readableBytes) : Executes b (.unwrite len) (b.unwrite len h)
  | write (data : Bytes) (h : data.length ≤ b.writableBytes) :
      Executes b (.write data) (b.write data h)
  | prepend (data : Bytes) (h : data.length ≤ b.prependableBytes) :
      Executes b (.prepend data) (b.prepend data h)
  | ensureWritableBytes (len : ℕ) :
      Executes b (.ensureWritableBytes len) (b.ensureWritableBytes len)
  | shrink (reserve : ℕ) : Executes b (.shrink reserve) (b.shrink reserve)
  | readFd (data : Bytes) (h : data.length ≤ b.readvLen) : Executes b (.readFd data) (b.readFd data)

theorem executes_of_exec {b b' : Buffer} {op : Op} (h : b.exec op = .ok b') :
    b.Executes op b' := by
  cases op with
  | append data => cases h; exact .append data
  | retrieve len => cases h; exact .retrieve len
  | retrieveAll => cases h; exact .retrieveAll
  | unwrite len =>
    rw [exec] at h
    split at h
    · cases h; exact .unwrite len _
    · cases h
  | write data =>
    rw [exec] at h
    split at h
    · cases h; exact .write data _
    · cases h
  | prepend data =>
    rw [exec] at h
    split at h
    · cases h; exact .prepend data _
    · cases h
  | ensureWritableBytes len => cases h; exact .ensureWritableBytes len
  | shrink reserve => cases h; exact .shrink reserve
  | readFd data =>
    rw [exec] at h
    split at h
    · cases h; exact .readFd data ‹_›
    · cases h

/-- **One operation on the vector is the operation on the bytes.** -/
theorem Executes.readable {b b' : Buffer} {op : Op} (h : b.Executes op b') :
    b'.readable = op.apply b.readable := by
  cases h with
  | append data => exact b.readable_append data
  | retrieve len => exact b.readable_retrieve len
  | retrieveAll => exact b.readable_retrieveAll
  | unwrite len h => rw [readable_unwrite, Op.apply, length_readable]
  | write data h => exact b.readable_write data h
  | prepend data h => exact b.readable_prepend data h
  | ensureWritableBytes len => exact (b.ensureWritableBytes_spec len).1
  | shrink reserve => exact b.readable_shrink reserve
  | readFd data h => exact b.readable_readFd data

/-! ### Room in front -/

theorem readerIndex_append (b : Buffer) (data : Bytes) :
    min kCheapPrepend b.readerIndex ≤ (b.append data).readerIndex :=
  b.readerIndex_ensureWritableBytes data.length

theorem kCheapPrepend_le_shrink (b : Buffer) (reserve : ℕ) :
    kCheapPrepend ≤ (b.shrink reserve).readerIndex := by
  have hfirst := (ofSize kInitialSize).readerIndex_ensureWritableBytes (b.readableBytes + reserve)
  have hthen := ((ofSize kInitialSize).ensureWritableBytes
    (b.readableBytes + reserve)).readerIndex_append b.readable
  have hnew : (ofSize kInitialSize).readerIndex = kCheapPrepend := rfl
  rw [hnew, min_self] at hfirst
  rwa [Nat.min_eq_left hfirst] at hthen

/-- An operation takes no more room in front than it uses. -/
theorem Executes.readerIndex {b b' : Buffer} {op : Op} (h : b.Executes op b') :
    min kCheapPrepend b.readerIndex ≤ b'.readerIndex + op.inFront := by
  cases h with
  | append data => exact b.readerIndex_append data
  | retrieve len =>
    show _ ≤ (b.retrieve len).readerIndex
    unfold Buffer.retrieve
    split
    · exact (min_le_right _ _).trans (Nat.le_add_right _ _)
    · exact min_le_left _ _
  | retrieveAll => exact min_le_left _ _
  | unwrite len h => exact min_le_right _ _
  | write data h => exact min_le_right _ _
  | prepend data h =>
    have h' : data.length ≤ b.readerIndex := h
    show _ ≤ b.readerIndex - data.length + data.length
    omega
  | ensureWritableBytes len => exact b.readerIndex_ensureWritableBytes len
  | shrink reserve => exact (min_le_left _ _).trans (b.kCheapPrepend_le_shrink reserve)
  | readFd data h =>
    show _ ≤ (b.readFd data).readerIndex
    unfold Buffer.readFd
    split
    · exact min_le_right _ _
    · exact (b.write (data.take b.writableBytes) (List.length_take_le _ _)).readerIndex_append _

/-! ### The size of the vector -/

@[simp] theorem length_write (b : Buffer) (data : Bytes) (h : data.length ≤ b.writableBytes) :
    (b.write data h).buffer.length = b.buffer.length := by
  have hw := b.writer_le
  unfold writableBytes at h
  exact length_overwrite (by omega)

/-- **The vector is enlarged only when less than half of it would be used.** -/
theorem length_ensureWritableBytes_le (b : Buffer) (len : ℕ) :
    (b.ensureWritableBytes len).buffer.length
      ≤ max b.buffer.length (kCheapPrepend + 2 * (b.readableBytes + len)) := by
  have hr := b.reader_le
  rcases b.length_ensureWritableBytes len with h | ⟨h, hroom⟩
  · exact h.le.trans (le_max_left _ _)
  · refine h.le.trans (le_trans ?_ (le_max_right _ _))
    unfold readableBytes
    omega

theorem length_append_le (b : Buffer) (data : Bytes) :
    (b.append data).buffer.length
      ≤ max b.buffer.length (kCheapPrepend + 2 * (b.readableBytes + data.length)) := by
  rw [append, length_write]
  exact b.length_ensureWritableBytes_le data.length

/-- Where there is room, nothing is enlarged. -/
theorem length_append_of_le {b : Buffer} {data : Bytes} (h : data.length ≤ b.writableBytes) :
    (b.append data).buffer.length = b.buffer.length := by
  rw [append, length_write, ensureWritableBytes, dif_neg (by omega)]

theorem length_shrink_le (b : Buffer) (reserve : ℕ) :
    (b.shrink reserve).buffer.length
      ≤ kCheapPrepend + max kInitialSize (2 * (b.readableBytes + reserve)) := by
  have hroom := ((ofSize kInitialSize).ensureWritableBytes_spec (b.readableBytes + reserve)).2
  have hnew : (ofSize kInitialSize).buffer.length = kCheapPrepend + kInitialSize :=
    List.length_replicate
  have hnone : (ofSize kInitialSize).readableBytes = 0 := Nat.sub_self _
  have hle := (ofSize kInitialSize).length_ensureWritableBytes_le (b.readableBytes + reserve)
  rw [hnew, hnone, Nat.zero_add] at hle
  rw [shrink, length_append_of_le (by rw [length_readable]; omega)]
  omega

theorem length_readFd_le (b : Buffer) (data : Bytes) :
    (b.readFd data).buffer.length
      ≤ max b.buffer.length (kCheapPrepend + 2 * (b.readableBytes + data.length)) := by
  unfold readFd
  by_cases h : data.length ≤ b.writableBytes
  · rw [dif_pos h, length_write]
    exact le_max_left _ _
  · rw [dif_neg h]
    have hle := (b.write (data.take b.writableBytes)
      (List.length_take_le _ _)).length_append_le (data.drop b.writableBytes)
    rw [length_write, ← length_readable, readable_write, List.length_append, List.length_take_of_le
      (by omega), List.length_drop, length_readable] at hle
    omega

theorem Executes.length {b b' : Buffer} {op : Op} (h : b.Executes op b') :
    b'.buffer.length
      ≤ max b.buffer.length (kCheapPrepend + max kInitialSize (2 * op.need b.readableBytes)) := by
  have hgrows : max b.buffer.length (kCheapPrepend + 2 * op.need b.readableBytes)
      ≤ max b.buffer.length (kCheapPrepend + max kInitialSize (2 * op.need b.readableBytes)) := by
    omega
  cases h with
  | append data => exact (b.length_append_le data).trans hgrows
  | retrieve len =>
    refine le_trans ?_ (le_max_left _ _)
    unfold Buffer.retrieve
    split <;> exact le_refl _
  | retrieveAll => exact le_max_left _ _
  | unwrite len h => exact le_max_left _ _
  | write data h => exact (b.length_write data h).le.trans (le_max_left _ _)
  | prepend data h =>
    have hw := b.reader_le.trans b.writer_le
    have h' : data.length ≤ b.readerIndex := h
    refine le_trans (le_of_eq ?_) (le_max_left _ _)
    exact length_overwrite (by omega)
  | ensureWritableBytes len =>
    exact (b.length_ensureWritableBytes_le len).trans hgrows
  | shrink reserve => exact (b.length_shrink_le reserve).trans (le_max_right _ _)
  | readFd data h => exact (b.length_readFd_le data).trans hgrows

/-! ### Whole runs -/

/-- **The vector is at most twice as long as what it had to hold.** `makeSpace`
enlarges it only when the free bytes on both sides are together too few for what is
to come; so what stays unused in front is less than that. `most` bounds what was to
be held after any of the calls. -/
theorem length_le_of_run {n most : ℕ} {ops : List Op} {b : Buffer}
    (h : ((system n).restrict fun b op => op.need b.readableBytes ≤ most).Run ops b) :
    b.buffer.length ≤ kCheapPrepend + max (max n kInitialSize) (2 * most) := by
  induction h with
  | @nil b hb =>
    rw [show b = ofSize n from hb]
    show (List.replicate _ _).length ≤ _
    rw [List.length_replicate]
    omega
  | @snoc _ op b b' _ hstep ih =>
    have hneed : op.need b.readableBytes ≤ most := hstep.1
    have hlen := (executes_of_exec hstep.2).length
    omega

theorem length_le_of_run_readFd : ∃ b,
    ((system 2).restrict fun b op => op.need b.readableBytes ≤ 3).Run
      [.readFd [1, 2], .retrieve 1, .append [3, 4]] b ∧
    b.buffer.length ≤ kCheapPrepend + max (max 2 kInitialSize) (2 * 3) := by
  let R := (system 2).restrict fun b op => op.need b.readableBytes ≤ 3
  let b₁ := (ofSize 2).readFd [1, 2]
  have h₀ : R.Run [] (ofSize 2) := .nil rfl
  have h₁ : R.Run [.readFd [1, 2]] b₁ := h₀.snoc ⟨by decide, rfl⟩
  have h₂ : R.Run [.readFd [1, 2], .retrieve 1] (b₁.retrieve 1) := h₁.snoc ⟨by decide, rfl⟩
  have h₃ : R.Run [.readFd [1, 2], .retrieve 1, .append [3, 4]] ((b₁.retrieve 1).append [3, 4]) :=
    h₂.snoc ⟨by decide, rfl⟩
  exact ⟨_, h₃, length_le_of_run h₃⟩

end Buffer

end Muduo
