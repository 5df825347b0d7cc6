import RtspServer.Memory
import RtspServer.Transition

/-!
# Reading frames from a file: `h264_file.cc`

`H264File::readFrame` reads a window of `_bufSize` bytes at the current
position of the file and looks for a frame in it: a first slice, then the
start code of a parameter set, an SEI or another first slice. The frame is
everything before that start code, and the position of the file moves on to
it. When a first slice is found but nothing behind it, and frames were
returned before, the rest of the window is taken for the last frame of the
file.

The two search loops read `_buffer` through an accessor that fails outside
the array; behind the bytes just read the array holds what earlier calls
left there. `_bytesUsed` and `_count` are 32-bit integers. The loop bound
`bytesRead - 5` is an unsigned 64-bit subtraction and wraps.
-/

/-- An open stream: its contents and the file position. -/
structure File where
  content : Bytes
  pos : ℕ := 0
deriving DecidableEq, Repr

namespace File

/-- `fread(buffer, 1, n, fp)`: the bytes read, and the stream after it. -/
def fread (fp : File) (n : ℕ) : Bytes × File :=
  ((fp.content.drop fp.pos).take n,
    { fp with pos := fp.pos + ((fp.content.drop fp.pos).take n).length })

/-- `fseek(fp, offset, SEEK_SET)`, which fails for a negative offset. -/
def fseek (fp : File) (offset : ℤ) : File :=
  if offset < 0 then fp else { fp with pos := offset.toNat }

@[simp] theorem content_fread (fp : File) (n : ℕ) : (fp.fread n).2.content = fp.content :=
  rfl

@[simp] theorem content_fseek (fp : File) (offset : ℤ) :
    (fp.fseek offset).content = fp.content := by
  unfold fseek
  split <;> rfl

end File

/-- An integer as an `int` holds it. -/
@[irreducible]
def toInt32 (x : ℤ) : ℤ := Int.bmod x (2 ^ 32)

/-- A `size_t` difference. -/
@[irreducible]
def sizeSub (a b : ℕ) : ℕ := (a + 2 ^ 64 - b) % 2 ^ 64

/-! ## The search loops -/

section Search

variable (get : ℕ → Except Fault UInt8)

/-- Whether the given bytes stand at `i`, reading no further than the first
difference. -/
def matchesAt (i : ℕ) : Bytes → Except Fault Bool
  | [] => return true
  | b :: bs => do
    if (← get i) = b then matchesAt (i + 1) bs else return false

/-- The length of the start code at `i`, if there is one. -/
def startCodeAt (i : ℕ) : Except Fault (Option ℕ) := do
  if ← matchesAt get i [0, 0, 1] then return some 3
  else if ← matchesAt get i [0, 0, 0, 1] then return some 4
  else return none

/-- The NAL unit at `j` is the first slice of a picture. -/
def isFirstSlice (j : ℕ) : Except Fault Bool := do
  let b ← get j
  if b &&& 0x1f = 0x5 ∨ b &&& 0x1f = 0x1 then
    return (← get (j + 1)) &&& 0x80 = 0x80
  else return false

/-- The NAL unit at `j` ends the frame before it: an SEI, a parameter set or
a first slice. -/
def isBoundary (j : ℕ) : Except Fault Bool := do
  let b ← get j
  if b &&& 0x1f = 0x6 ∨ b &&& 0x1f = 0x7 ∨ b &&& 0x1f = 0x8 then return true
  else isFirstSlice get j

/-- `for(; i < bound; ++i)` over the start codes that pass `test`, where the
first argument counts the iterations left. -/
def search (test : ℕ → Except Fault Bool) : ℕ → ℕ → Except Fault (Option ℕ)
  | 0, _ => return none
  | k + 1, i => do
    match ← startCodeAt get i with
    | none => search test k (i + 1)
    | some startCode =>
      if ← test (i + startCode) then return some i else search test k (i + 1)

/-- Where the second loop starts: four bytes behind the first slice, and at
the bound, where it has nothing to do, when there is none. -/
def secondFrom (bound : ℕ) : Option ℕ → ℕ
  | some s => s + 4
  | none => bound

/-- The two loops of `readFrame` up to `bound`: where the first slice starts,
and where the frame ends. -/
def scanLoops (bound : ℕ) : Except Fault (Option ℕ × Option ℕ) := do
  let start ← search get (isFirstSlice get) bound 0
  let stop ← search get (isBoundary get) (bound - secondFrom bound start)
    (secondFrom bound start)
  return (start, stop)

/-- The two loops over a window of `bytesRead` bytes. -/
def scanWindow (bytesRead : ℕ) : Except Fault (Option ℕ × Option ℕ) :=
  scanLoops get (sizeSub bytesRead 5)

end Search

/-! ## The reader -/

/-- The reader, with an internal buffer of `n` bytes. -/
structure H264File (n : ℕ) where
  fp : Option File
  buffer : Block n
  bytesUsed : ℤ := 0
  count : ℤ := 0
deriving DecidableEq

/-- What one call of `readFrame` gives back: its value, what it stored into
`*endOfFrame`, and the bytes it copied out. -/
structure ReadResult where
  ret : ℤ
  endOfFrame : Option Bool := none
  frame : Bytes := []
deriving DecidableEq, Repr

namespace H264File

variable {n : ℕ}

/-- `H264File::open` on a file, with whatever the new buffer holds. -/
def opened (content : Bytes) (garbage : Block n) : H264File n :=
  { fp := some { content := content }, buffer := garbage }

/-- `H264File::close`. -/
def close (f : H264File n) : H264File n :=
  match f.fp with
  | none => f
  | some _ => { f with fp := none, count := 0, bytesUsed := 0 }

/-- An access to `_buffer`. -/
def bufferAt (buffer : Block n) (i : ℕ) : Except Fault UInt8 :=
  if h : i < n then .ok (buffer.get ⟨i, h⟩) else .error .outOfBounds

/-- The buffer after `fread` has stored a window at its start; a window is
never longer than the buffer (`length_readWindow_le`). -/
def filled (buffer : Block n) (chunk : Bytes) : Block n :=
  if h : 0 + chunk.length ≤ n then buffer.write 0 chunk h else buffer

/-- `readFrame` once a window of `bytesRead` bytes is in the buffer. -/
def scanFrame (f : H264File n) (fp : File) (bytesRead inBufSize : ℕ) :
    Except Fault (ReadResult × H264File n) := do
  let (start, stop) ← scanWindow (bufferAt f.buffer) bytesRead
  let findStart := start.isSome
  let flag := findStart && !stop.isSome && decide (f.count > 0)
  if !findStart || !(stop.isSome || flag) then
    -- perhaps _bufSize is too small
    return ({ ret := -1, endOfFrame := some false }, { f with fp := some fp }.close)
  else
    let i := if flag then bytesRead else stop.getD 0
    let size := if i ≤ inBufSize then i else inBufSize
    if size ≤ n then
      let bytesUsed := if flag then 0 else toInt32 (f.bytesUsed + i)
      return ({ ret := toInt32 size, endOfFrame := some flag
                frame := f.buffer.toList.take size },
        { f with
          fp := some (fp.fseek bytesUsed)
          count := if flag then 0 else toInt32 (f.count + 1)
          bytesUsed := bytesUsed })
    else .error .outOfBounds

/-- The first `fread` of a call, and the second one from the start of the
file when the first reads nothing. -/
def readWindow (f : H264File n) (fp : File) : Bytes × File × H264File n :=
  let (chunk, fp') := fp.fread n
  if chunk = [] then
    let (chunk, fp') := (fp.fseek 0).fread n
    (chunk, fp', { f with count := 0, bytesUsed := 0 })
  else (chunk, fp', f)

/-- A window is no longer than the buffer. -/
theorem length_readWindow_le (f : H264File n) (fp : File) :
    (f.readWindow fp).1.length ≤ n := by
  unfold readWindow File.fread
  dsimp only
  split <;> exact List.length_take_le _ _

/-- `H264File::readFrame` into a caller's buffer of `inBufSize` bytes. -/
def readFrame (f : H264File n) (inBufSize : ℕ) : Except Fault (ReadResult × H264File n) :=
  match f.fp with
  | none => .ok ({ ret := -1 }, f)
  | some fp =>
    let (chunk, fp', f') := f.readWindow fp
    if chunk = [] then .ok ({ ret := -1 }, { f' with fp := some fp' }.close)
    else
      scanFrame { f' with buffer := filled f'.buffer chunk } fp' chunk.length inBufSize

/-! ## What a call can do -/

/-- An access succeeds exactly inside the buffer. -/
theorem lt_of_bufferAt {buffer : Block n} {i : ℕ} {b : UInt8}
    (h : bufferAt buffer i = .ok b) : i < n := by
  by_contra hn
  rw [bufferAt, dif_neg hn] at h
  cases h

theorem bufferAt_eq_getElem? {buffer : Block n} {i : ℕ} {b : UInt8} :
    bufferAt buffer i = .ok b ↔ buffer.toList[i]? = some b := by
  have hlen := buffer.toList_length
  constructor
  · intro h
    have hi := lt_of_bufferAt h
    rw [bufferAt, dif_pos hi, List.Vector.get_eq_get_toList] at h
    rw [List.getElem?_eq_getElem (by omega)]
    simpa using h
  · intro h
    obtain ⟨hi, hb⟩ := List.getElem?_eq_some_iff.mp h
    rw [bufferAt, dif_pos (by omega), List.Vector.get_eq_get_toList]
    simpa using hb

end H264File

section Search

variable {get : ℕ → Except Fault UInt8}

/-- Bytes that match at `i` are read one after another from `i` on. -/
theorem get_of_matchesAt {bs : Bytes} :
    ∀ {i : ℕ}, matchesAt get i bs = .ok true → ∀ k b, bs[k]? = some b →
      get (i + k) = .ok b := by
  induction bs with
  | nil => intro i _ k b hk; simp at hk
  | cons c bs ih =>
    intro i h k b hk
    rw [matchesAt, Except.bind_eq_ok_iff] at h
    obtain ⟨b', hb', h⟩ := h
    by_cases hc : b' = c
    · rw [if_pos hc] at h
      cases k with
      | zero =>
        obtain rfl : c = b := by simpa using hk
        rw [Nat.add_zero, hb', hc]
      | succ k =>
        have := ih h k b (by simpa using hk)
        rwa [show i + (k + 1) = i + 1 + k by omega]
    · rw [if_neg hc] at h
      cases h

/-- The start of a search can be read. -/
theorem get_of_startCodeAt {i : ℕ} {sc : Option ℕ} (h : startCodeAt get i = .ok sc) :
    ∃ b, get i = .ok b := by
  rw [startCodeAt, Except.bind_eq_ok_iff] at h
  obtain ⟨m, hm, -⟩ := h
  rw [matchesAt, Except.bind_eq_ok_iff] at hm
  obtain ⟨b, hb, -⟩ := hm
  exact ⟨b, hb⟩

/-- **A start code at `i`** is `00 00 01` or `00 00 00 01`. -/
theorem startCodeAt_eq_some {i sc : ℕ} (h : startCodeAt get i = .ok (some sc)) :
    (sc = 3 ∧ matchesAt get i [0, 0, 1] = .ok true)
      ∨ (sc = 4 ∧ matchesAt get i [0, 0, 0, 1] = .ok true) := by
  rw [startCodeAt, Except.bind_eq_ok_iff] at h
  obtain ⟨m, hm, h⟩ := h
  cases m with
  | true =>
    rw [if_pos rfl] at h
    obtain rfl : 3 = sc := by cases h; rfl
    exact .inl ⟨rfl, hm⟩
  | false =>
    rw [if_neg Bool.false_ne_true, Except.bind_eq_ok_iff] at h
    obtain ⟨m', hm', h⟩ := h
    cases m' with
    | true =>
      rw [if_pos rfl] at h
      obtain rfl : 4 = sc := by cases h; rfl
      exact .inr ⟨rfl, hm'⟩
    | false =>
      rw [if_neg Bool.false_ne_true] at h
      cases h

/-- **A successful search** stops at a start code in range that passes the
test. -/
theorem search_eq_some {test : ℕ → Except Fault Bool} {k : ℕ} :
    ∀ {i j : ℕ}, search get test k i = .ok (some j) →
      i ≤ j ∧ j < i + k ∧ ∃ sc, startCodeAt get j = .ok (some sc) ∧ test (j + sc) = .ok true := by
  induction k with
  | zero => intro i j h; cases h
  | succ k ih =>
    intro i j h
    have hnext : search get test k (i + 1) = .ok (some j) →
        i ≤ j ∧ j < i + (k + 1)
          ∧ ∃ sc, startCodeAt get j = .ok (some sc) ∧ test (j + sc) = .ok true := by
      intro h
      obtain ⟨hle, hlt, hsc⟩ := ih h
      exact ⟨by omega, by omega, hsc⟩
    rw [search, Except.bind_eq_ok_iff] at h
    obtain ⟨sc, hsc, h⟩ := h
    cases sc with
    | none => exact hnext h
    | some sc =>
      rw [Except.bind_eq_ok_iff] at h
      obtain ⟨t, ht, h⟩ := h
      cases t with
      | false =>
        rw [if_neg Bool.false_ne_true] at h
        exact hnext h
      | true =>
        rw [if_pos rfl] at h
        obtain rfl : i = j := by cases h; rfl
        exact ⟨le_rfl, by omega, sc, hsc, ht⟩

/-- **A search that finds nothing** has read every position of its range. -/
theorem search_eq_none {test : ℕ → Except Fault Bool} {k : ℕ} :
    ∀ {i : ℕ}, search get test k i = .ok none →
      ∀ j, i ≤ j → j < i + k → ∃ b, get j = .ok b := by
  induction k with
  | zero => intro i _ j hi hj; omega
  | succ k ih =>
    intro i h j hi hj
    rw [search, Except.bind_eq_ok_iff] at h
    obtain ⟨sc, hsc, h⟩ := h
    have hnext : search get test k (i + 1) = .ok none := by
      cases sc with
      | none => exact h
      | some sc =>
        rw [Except.bind_eq_ok_iff] at h
        obtain ⟨t, ht, h⟩ := h
        cases t with
        | false =>
          rw [if_neg Bool.false_ne_true] at h
          exact h
        | true =>
          rw [if_pos rfl] at h
          cases h
    rcases Nat.eq_or_lt_of_le hi with rfl | hlt
    · exact get_of_startCodeAt hsc
    · exact ih hnext j hlt (by omega)

/-- The two searches of a window. -/
theorem scanLoops_eq_ok {bound : ℕ} {start stop : Option ℕ}
    (h : scanLoops get bound = .ok (start, stop)) :
    search get (isFirstSlice get) bound 0 = .ok start
      ∧ search get (isBoundary get) (bound - secondFrom bound start)
          (secondFrom bound start) = .ok stop := by
  unfold scanLoops at h
  rw [Except.bind_eq_ok_iff] at h
  obtain ⟨st, hst, h⟩ := h
  rw [Except.bind_eq_ok_iff] at h
  obtain ⟨sp, hsp, h⟩ := h
  cases h
  exact ⟨hst, hsp⟩

end Search

namespace H264File

variable {n : ℕ}

/-- Where a frame ends is inside the buffer. -/
theorem stop_lt {buffer : Block n} {bytesRead : ℕ} {start : Option ℕ} {e : ℕ}
    (h : scanWindow (bufferAt buffer) bytesRead = .ok (start, some e)) : e < n := by
  obtain ⟨-, -, sc, hsc, -⟩ := search_eq_some (scanLoops_eq_ok h).2
  obtain ⟨b, hb⟩ := get_of_startCodeAt hsc
  exact lt_of_bufferAt hb

/-- **The outcomes of a call whose window is in the buffer**: no frame, a
frame that ends before a start code, or the rest of the window as the last
frame of the file. -/
theorem scanFrame_cases {f f' : H264File n} {fp : File} {bytesRead m : ℕ} {r : ReadResult}
    (h : f.scanFrame fp bytesRead m = .ok (r, f')) :
    ∃ start stop, scanWindow (bufferAt f.buffer) bytesRead = .ok (start, stop)
      ∧ ((r = { ret := -1, endOfFrame := some false } ∧ f' = { f with fp := some fp }.close
            ∧ (start = none ∨ stop = none ∧ ¬0 < f.count))
        ∨ (∃ s e, start = some s ∧ stop = some e
            ∧ r = ⟨toInt32 (min e m : ℕ), some false, f.buffer.toList.take (min e m)⟩
            ∧ f' = { f with
                fp := some (fp.fseek (toInt32 (f.bytesUsed + e)))
                count := toInt32 (f.count + 1)
                bytesUsed := toInt32 (f.bytesUsed + e) })
        ∨ (∃ s, start = some s ∧ stop = none ∧ 0 < f.count
            ∧ r = ⟨toInt32 (min bytesRead m : ℕ), some true,
                f.buffer.toList.take (min bytesRead m)⟩
            ∧ f' = { f with fp := some (fp.fseek 0), count := 0, bytesUsed := 0 })) := by
  rw [scanFrame, Except.bind_eq_ok_iff] at h
  obtain ⟨⟨start, stop⟩, hscan, h⟩ := h
  refine ⟨start, stop, hscan, ?_⟩
  cases start with
  | none =>
    left
    simp only [Option.isSome_none, Bool.false_and, Bool.not_false, Bool.true_or,
      if_true] at h
    cases h
    exact ⟨rfl, rfl, .inl rfl⟩
  | some s =>
    cases stop with
    | some e =>
      right; left
      simp only [Option.isSome_some, Bool.not_true, Bool.and_false, Bool.false_and,
        Bool.or_false, Bool.false_eq_true, if_false, Option.getD_some,
        ← Nat.min_def] at h
      split at h
      · cases h
        exact ⟨s, e, rfl, rfl, rfl, rfl⟩
      · cases h
    | none =>
      by_cases hcount : f.count > 0
      · right; right
        simp only [Option.isSome_some, Option.isSome_none, Bool.not_false, Bool.and_true,
          hcount, decide_true, Bool.or_true, Bool.not_true, Bool.or_self,
          Bool.false_eq_true, if_false, if_true, ← Nat.min_def] at h
        split at h
        · cases h
          exact ⟨s, rfl, rfl, hcount, rfl, rfl⟩
        · cases h
      · left
        simp only [Option.isSome_some, Option.isSome_none, Bool.not_false, Bool.and_true,
          Bool.true_and, hcount, decide_false, Bool.or_false, Bool.not_true,
          Bool.false_or, Bool.false_eq_true, if_true] at h
        cases h
        exact ⟨rfl, rfl, .inr ⟨rfl, hcount⟩⟩

/-! ## A pass over the file

A pass starts with a call whose window begins at offset 0. The bytes of the
pass are the frames returned since, and the claim of `*endOfFrame = true` is
that they are the whole file. -/

/-- Where the window of a call begins: at the file position, or at the start
of the file when nothing is left to read. -/
def windowOffset (n : ℕ) (fp : File) : ℕ := if (fp.fread n).1 = [] then 0 else fp.pos

/-- The window of a call, and what the call has changed before it searches
it. -/
theorem readWindow_spec (f : H264File n) (fp : File) {chunk : Bytes} {fp' : File}
    {f' : H264File n} (h : f.readWindow fp = (chunk, fp', f')) :
    chunk = (fp.content.drop (windowOffset n fp)).take n
      ∧ fp'.content = fp.content ∧ fp'.pos = windowOffset n fp + chunk.length
      ∧ f'.buffer = f.buffer
      ∧ ((windowOffset n fp = fp.pos ∧ f' = f)
        ∨ (windowOffset n fp = 0 ∧ f' = { f with count := 0, bytesUsed := 0 })) := by
  unfold readWindow at h
  unfold windowOffset
  by_cases hc : (fp.fread n).1 = []
  · rw [if_pos hc]
    simp only [if_pos hc, File.fseek, lt_irrefl, if_false] at h
    cases h
    exact ⟨rfl, rfl, rfl, rfl, .inr ⟨rfl, rfl⟩⟩
  · rw [if_neg hc]
    simp only [if_neg hc] at h
    cases h
    exact ⟨rfl, rfl, rfl, rfl, .inl ⟨rfl, rfl⟩⟩

/-- The buffer starts with the window that was read into it. -/
theorem take_filled {buffer : Block n} {chunk : Bytes} (hlen : chunk.length ≤ n) {k : ℕ}
    (hk : k ≤ chunk.length) : (filled buffer chunk).toList.take k = chunk.take k := by
  unfold filled
  rw [dif_pos (by omega), Block.toList_write]
  unfold overwrite
  rw [List.take_zero, List.nil_append, List.take_append_of_le_length hk]

/-- **The condition under which a call splits the file correctly.** If its
window holds a first slice, then either a start code ends the frame, at a
file position an `int` can hold, or the window reaches the end of the file
(or no frame was returned yet, and the call reports an error). The end of the
file is asked for only behind `0 < count`: without a frame before, the source
closes the file and returns -1. What fails here is a frame longer than the
buffer of the reader: the window is returned as if it were the last frame, and
the rest of the file is not read. -/
def SplitsWell (f : H264File n) : Prop :=
  ∀ fp chunk fp' f', f.fp = some fp → f.readWindow fp = (chunk, fp', f') →
    ∀ s stop,
      scanWindow (bufferAt (filled f'.buffer chunk)) chunk.length = .ok (some s, stop) →
      match stop with
      | some e => f'.bytesUsed + e < 2 ^ 31
      | none => 0 < f'.count → fp.content.length ≤ windowOffset n fp + chunk.length

/-- The reader together with the bytes of the pass. A call whose window
begins at offset 0 starts a new pass. -/
def passSystem (content : Bytes) (n m : ℕ) : System (H264File n × Bytes) ReadResult where
  init s := ∃ garbage, s = (opened content garbage, [])
  step s r s' := s.1.readFrame m = .ok (r, s'.1)
    ∧ s'.2 = (if s.1.fp.map (windowOffset n) = some 0 then [] else s.2) ++ r.frame

/-- **The pass so far is the file up to the current position**, unless the
position is past the end, from where the next call starts a new pass. At
position 0 nothing is said of the frames: what an earlier pass has returned is
dropped with the first window of the next. -/
def PassInv (content : Bytes) (s : H264File n × Bytes) : Prop :=
  ∀ fp, s.1.fp = some fp → fp.content = content
    ∧ (content.length ≤ fp.pos
      ∨ (s.1.bytesUsed = fp.pos ∧ (fp.pos ≠ 0 → s.2 = content.take fp.pos)))

theorem toInt32_of_lt {x : ℤ} (h0 : 0 ≤ x) (h : x < 2 ^ 31) : toInt32 x = x := by
  unfold toInt32
  exact Int.bmod_eq_of_le (by omega) (by omega)

/-- A call that comes to search a window: the file is open, there are bytes from the
position on or, at the end of the file, from its beginning, and `scanFrame` looks for
the frame in them. -/
structure FrameCall (f : H264File n) (m : ℕ) (r : ReadResult) (f' : H264File n)
    (fp : File) (chunk : Bytes) (fp₁ : File) (f₁ : H264File n) : Prop where
  fp_eq : f.fp = some fp
  window : f.readWindow fp = (chunk, fp₁, f₁)
  ne_nil : chunk ≠ []
  scan : ({ f₁ with buffer := filled f₁.buffer chunk } : H264File n).scanFrame fp₁ chunk.length m
    = .ok (r, f')

/-- A call either returns an error, having closed the file or left it as it
was, or goes on to search a window. -/
theorem readFrame_cases {f f' : H264File n} {m : ℕ} {r : ReadResult}
    (h : f.readFrame m = .ok (r, f')) :
    (f'.fp = none ∧ r = { ret := -1 })
      ∨ ∃ fp chunk fp₁ f₁, FrameCall f m r f' fp chunk fp₁ f₁ := by
  unfold readFrame at h
  cases hfp : f.fp with
  | none =>
    rw [hfp] at h
    cases h
    exact .inl ⟨hfp, rfl⟩
  | some fp =>
    rw [hfp] at h
    rcases hw : f.readWindow fp with ⟨chunk, fp₁, f₁⟩
    simp only [hw] at h
    by_cases hc : chunk = []
    · rw [if_pos hc] at h
      cases h
      exact .inl ⟨rfl, rfl⟩
    · rw [if_neg hc] at h
      exact .inr ⟨fp, chunk, fp₁, f₁, hfp, hw, hc, h⟩

/-- A window that is a segment of the file, put behind what the file holds
before it. -/
theorem take_append_window (content : Bytes) (off k : ℕ) :
    content.take off ++ (content.drop off).take k = content.take (off + k) :=
  List.take_add.symm

/-- **One call keeps the pass.** -/
theorem passInv_step {content : Bytes} {m : ℕ} (hm : n ≤ m) {s s' : H264File n × Bytes}
    {r : ReadResult} (hinv : PassInv content s) (hgood : SplitsWell s.1)
    (hstep : (passSystem content n m).step s r s') : PassInv content s' := by
  obtain ⟨f, acc⟩ := s
  obtain ⟨f', acc'⟩ := s'
  obtain ⟨hread, hacc⟩ := hstep
  dsimp only at hread hacc hgood
  intro fp' hfp'
  dsimp only at hfp'
  obtain ⟨hnone, -⟩ | ⟨fp, chunk, fp₁, f₁, hcall⟩ := readFrame_cases hread
  · rw [hnone] at hfp'
    cases hfp'
  obtain ⟨hcontent, hpos⟩ := hinv fp hcall.fp_eq
  obtain ⟨hchunk, hcontent₁, hpos₁, hbuf₁, hcase⟩ := readWindow_spec f fp hcall.window
  have hlen : chunk.length ≤ n := by rw [hchunk]; exact List.length_take_le _ _
  obtain ⟨start, stop, hscan, hrej | ⟨s, e, rfl, rfl, hr, hf'⟩ | ⟨s, rfl, rfl, -, -, hf'⟩⟩ :=
    scanFrame_cases hcall.scan
  · -- the file was closed
    obtain ⟨-, rfl, -⟩ := hrej
    cases hfp'
  · -- a frame that ends before a start code
    have hlt : f₁.bytesUsed + e < 2 ^ 31 :=
      hgood fp chunk fp₁ f₁ hcall.fp_eq hcall.window s (some e) hscan
    have he : e < n := stop_lt hscan
    -- the offset of this window is the number of bytes used, and the pass is the file up to it
    have hused : content.length ≤ windowOffset n fp
        ∨ (f₁.bytesUsed = windowOffset n fp
          ∧ (windowOffset n fp ≠ 0 → acc = content.take (windowOffset n fp))) := by
      obtain ⟨hoff, rfl⟩ | ⟨hoff, rfl⟩ := hcase
      · rwa [hoff]
      · rw [hoff]
        exact .inr ⟨rfl, fun h => absurd rfl h⟩
    obtain hpast | ⟨hused, htake⟩ := hused
    · -- nothing was left, so the window is empty
      have : chunk = [] := by
        rw [hchunk, hcontent, List.drop_of_length_le hpast, List.take_nil]
      exact absurd this hcall.ne_nil
    have htoInt : toInt32 (f₁.bytesUsed + e) = windowOffset n fp + e := by
      rw [toInt32_of_lt (by omega) hlt, hused]
    rw [htoInt] at hf'
    have hfp'' : fp' = { fp₁ with pos := windowOffset n fp + e } := by
      rw [hf'] at hfp'
      have hnneg : ¬((windowOffset n fp : ℤ) + e < 0) := by omega
      simp only [File.fseek, hnneg, if_false, Option.some.injEq] at hfp'
      rw [← hfp']
      congr 1
    subst hfp''
    refine ⟨by rw [hcontent₁, hcontent], ?_⟩
    by_cases hle : content.length ≤ windowOffset n fp + e
    · exact .inl hle
    refine .inr ⟨by rw [hf']; push_cast; rfl, fun _ => ?_⟩
    have hclen : e ≤ chunk.length := by
      rw [hchunk, hcontent, List.length_take, List.length_drop]
      omega
    have hframe : r.frame = (content.drop (windowOffset n fp)).take e := by
      rw [hr]
      dsimp only
      rw [Nat.min_eq_left (by omega), hbuf₁, take_filled hlen hclen, hchunk, hcontent,
        List.take_take, Nat.min_eq_left he.le]
    show acc' = content.take (windowOffset n fp + e)
    rw [hacc, hframe, hcall.fp_eq, Option.map_some, ← take_append_window]
    by_cases hzero : windowOffset n fp = 0
    · rw [hzero, if_pos rfl, List.take_zero]
    · rw [if_neg (by simpa using hzero), htake hzero]
  · -- the end of the file: the position goes back to the start
    rw [hf'] at hfp'
    simp only [File.fseek, lt_irrefl, if_false, Option.some.injEq] at hfp'
    subst hfp'
    exact ⟨by rw [← hcontent, ← hcontent₁], .inr ⟨by rw [hf']; rfl, fun h => absurd rfl h⟩⟩

/-- **A call that reports the end of the file completes the pass exactly if
it splits the file correctly**: the frames returned since the position was
last at offset 0 are the whole file, or a window that stops short of the end
of the file was taken for the last one. -/
theorem endOfFrame_step_iff {content : Bytes} {m : ℕ} (hm : n ≤ m)
    {s s' : H264File n × Bytes} {r : ReadResult} (hinv : PassInv content s)
    (hstep : (passSystem content n m).step s r s') (hend : r.endOfFrame = some true) :
    s'.2 = content ↔ SplitsWell s.1 := by
  obtain ⟨f, acc⟩ := s
  obtain ⟨f', acc'⟩ := s'
  obtain ⟨hread, hacc⟩ := hstep
  dsimp only at hread hacc ⊢
  obtain ⟨-, rfl⟩ | ⟨fp, chunk, fp₁, f₁, hcall⟩ := readFrame_cases hread
  · cases hend
  obtain ⟨hcontent, hpos⟩ := hinv fp hcall.fp_eq
  obtain ⟨hchunk, hcontent₁, hpos₁, hbuf₁, hcase⟩ := readWindow_spec f fp hcall.window
  have hlen : chunk.length ≤ n := by rw [hchunk]; exact List.length_take_le _ _
  obtain ⟨start, stop, hscan, ⟨rfl, -⟩ | ⟨s, e, -, -, rfl, -⟩ | ⟨s, rfl, rfl, hcount, hr, -⟩⟩ :=
    scanFrame_cases hcall.scan
  · cases hend
  · cases hend
  obtain ⟨hoff, rfl⟩ | ⟨-, rfl⟩ := hcase
  swap
  · -- after a rewind no frame has been returned yet
    exact absurd hcount (lt_irrefl 0)
  -- the call splits the file correctly exactly if its window reaches the end
  have hsplits : SplitsWell f₁ ↔ content.length ≤ windowOffset n fp + chunk.length := by
    constructor
    · intro hgood
      rw [← hcontent]
      exact hgood fp chunk fp₁ f₁ hcall.fp_eq hcall.window s none hscan hcount
    · rintro hreach fp₂ chunk₂ fp₃ f₃ hfp₂ hw₂ s₂ stop₂ hscan₂
      obtain rfl := Option.some.inj (hcall.fp_eq.symm.trans hfp₂)
      cases hcall.window.symm.trans hw₂
      cases hscan.symm.trans hscan₂
      rw [hcontent]
      exact fun _ => hreach
  have hframe : r.frame = chunk := by
    rw [hr]
    dsimp only
    rw [Nat.min_eq_left (by omega), take_filled hlen le_rfl, List.take_length]
  have hbefore : (if f₁.fp.map (windowOffset n) = some 0 then [] else acc)
      = content.take (windowOffset n fp) := by
    rw [hcall.fp_eq, Option.map_some]
    by_cases hzero : windowOffset n fp = 0
    · rw [hzero, if_pos rfl, List.take_zero]
    · rw [if_neg (by simpa using hzero)]
      obtain hpast | ⟨-, htake⟩ := hpos
      · have : chunk = [] := by
          rw [hchunk, hcontent, hoff, List.drop_of_length_le hpast, List.take_nil]
        exact absurd this hcall.ne_nil
      · rw [hoff] at hzero ⊢
        exact htake hzero
  have hpass : acc' = content.take (windowOffset n fp + chunk.length) := by
    have hself : chunk = (content.drop (windowOffset n fp)).take chunk.length := by
      rw [hchunk, hcontent, List.length_take, ← List.take_eq_take_min]
    rw [hacc, hframe, hbefore, ← take_append_window, ← hself]
  rw [hsplits, hpass]
  constructor
  · intro h
    by_contra hshort
    have := congrArg List.length h
    rw [List.length_take] at this
    omega
  · exact List.take_of_length_le

/-- **The frames of a pass are the whole file.** In every run of calls that
all split the file correctly, on every file and with every buffer size, a
call that sets `*endOfFrame` completes a pass whose frames are byte for byte
the whole file. -/
theorem pass_eq_content (content : Bytes) (n m : ℕ) (hm : n ≤ m) {calls : List ReadResult}
    {r : ReadResult} {s : H264File n × Bytes}
    (hrun : ((passSystem content n m).restrict (fun s _ => SplitsWell s.1)).Run
      (calls ++ [r]) s) (hend : r.endOfFrame = some true) : s.2 = content := by
  obtain ⟨s₀, hrun, hgood, hstep⟩ := System.run_restrict_iff.mp hrun
  have hinv : PassInv content s₀ := by
    refine hrun.invariant ?_ ?_
    · rintro s ⟨garbage, rfl⟩ fp hfp
      obtain rfl : { content := content } = fp := by simpa [opened] using hfp
      exact ⟨rfl, .inr ⟨rfl, fun h => absurd rfl h⟩⟩
    · rintro s r s' hinv ⟨hgood, hstep⟩
      exact passInv_step hm hinv hgood hstep
  exact (endOfFrame_step_iff hm hinv hstep hend).mpr hgood

/-- A file of two access units of 5 and 7 bytes. -/
def twoUnits : Bytes := [0, 0, 1, 0x65, 0x88, 0, 0, 1, 0x65, 0x88, 1, 1]

/-- The reader after the first access unit of a file, with an internal
buffer of 12 bytes. -/
def afterFirst (content : Bytes) (buffer : Block 12) : H264File 12 :=
  { fp := some { content := content, pos := 5 }, buffer := buffer, bytesUsed := 5, count := 1 }

/-- A 12-byte buffer holds each access unit of `twoUnits` with the start
code behind it, so its pass is the whole file. -/
theorem pass_eq_content_twoUnits :
    ∃ calls r s, ((passSystem twoUnits 12 12).restrict (fun s _ => SplitsWell s.1)).Run
        (calls ++ [r]) s ∧ r.endOfFrame = some true ∧ s.2 = twoUnits := by
  have hgood : ∀ (s₀ : ℕ) (stop₀ : Option ℕ) {f : H264File 12} {content : Bytes} {pos : ℕ}
      {chunk : Bytes} {fp' : File} {f' : H264File 12},
      f.fp = some { content := content, pos := pos } →
      f.readWindow { content := content, pos := pos } = (chunk, fp', f') →
      scanWindow (bufferAt (filled f'.buffer chunk)) chunk.length = .ok (some s₀, stop₀) →
      (match stop₀ with
        | some e => f'.bytesUsed + e < 2 ^ 31
        | none => 0 < f'.count → content.length
            ≤ windowOffset 12 { content := content, pos := pos } + chunk.length) →
      SplitsWell f := by
    intro s₀ stop₀ f content pos chunk fp' f' hfp hw hscan hcond fp chunk₁ fp₁ f₁ hfp₁ hw₁ s
      stop hscan₁
    obtain rfl := Option.some.inj (hfp.symm.trans hfp₁)
    cases hw.symm.trans hw₁
    cases hscan.symm.trans hscan₁
    exact hcond
  have hrun : ((passSystem twoUnits 12 12).restrict (fun s _ => SplitsWell s.1)).Run
      ([⟨5, some false, twoUnits.take 5⟩] ++ [⟨7, some true, twoUnits.drop 5⟩])
      ({ fp := some { content := twoUnits }
         buffer := ⟨[0, 0, 1, 0x65, 0x88, 1, 1, 1, 0x65, 0x88, 1, 1], rfl⟩ }, twoUnits) := by
    have hopen : ((passSystem twoUnits 12 12).restrict (fun s _ => SplitsWell s.1)).Run []
        (opened twoUnits (Block.filled 12 0), []) := .nil ⟨_, rfl⟩
    refine .snoc (s := (afterFirst twoUnits ⟨twoUnits, rfl⟩, twoUnits.take 5))
      (hopen.snoc ⟨?_, ?_, ?_⟩) ⟨?_, ?_, ?_⟩
    · exact hgood 0 (some 5) rfl rfl (by decide +kernel) (by decide)
    · decide +kernel
    · decide +kernel
    · exact hgood 0 none rfl rfl (by decide +kernel) (by decide)
    · decide +kernel
    · decide +kernel
  exact ⟨_, _, _, hrun, rfl, pass_eq_content twoUnits 12 12 le_rfl hrun rfl⟩

/-- A file whose second access unit is longer than 12 bytes. -/
def longUnit : Bytes := twoUnits ++ [1, 1, 1, 1, 1, 1, 1, 1]

/-- **A window that stops inside an access unit is taken for the end of the
file.** With a 12-byte buffer the second call on `longUnit` reports the end
of the file, and the last three bytes are never returned. -/
theorem pass_ne_content :
    ¬∀ (content : Bytes) (n m : ℕ), n ≤ m → ∀ (calls : List ReadResult) (r : ReadResult)
      (s : H264File n × Bytes), (passSystem content n m).Run (calls ++ [r]) s →
        r.endOfFrame = some true → s.2 = content := by
  intro h
  have hrun : (passSystem longUnit 12 12).Run
      ([⟨5, some false, longUnit.take 5⟩] ++ [⟨12, some true, (longUnit.drop 5).take 12⟩])
      ({ fp := some { content := longUnit }, buffer := ⟨(longUnit.drop 5).take 12, rfl⟩ },
        longUnit.take 17) := by
    have hopen : (passSystem longUnit 12 12).Run [] (opened longUnit (Block.filled 12 0), []) :=
      .nil ⟨_, rfl⟩
    refine .snoc (s := (afterFirst longUnit ⟨longUnit.take 12, rfl⟩, longUnit.take 5))
      (hopen.snoc ⟨?_, ?_⟩) ⟨?_, ?_⟩
    all_goals decide +kernel
  exact absurd (h longUnit 12 12 le_rfl _ _ _ hrun rfl) (by decide +kernel)

end H264File
