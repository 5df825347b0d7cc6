import Mathlib.Data.List.DropRight
import Mathlib.Data.List.Infix
import RtspServer.FrameWindows

/-!
# Where the frames of a file begin and end

A frame that `readFrame` returns before the last one of a pass is one picture:
it starts where the frame before it ended, with a start code, it has exactly
one first slice, and behind it stands the start code of an SEI, a parameter set
or the next first slice (`frames_of_run`).

The first loop stops at the first slice it finds and the second goes on four
bytes later, which is inside the start code and header of that slice when the
code has four bytes. `oneFirstSlice_of_scan` says that nothing is lost or found twice there.

What a call returns depends on the position in the file and on whether a frame
came before in the pass, and not on what the buffer holds. `Cursor` is the
reader without its buffer; the reader refines it (`cursor_readFrame`), so
that a second pass returns the frames of the first.
-/

/-! ## Slices and start codes in a byte string -/

/-- The two forms of a start code. -/
def startCodes : List Bytes := [[0, 0, 1], [0, 0, 0, 1]]

/-- The header and the next byte of a slice that is the first of its picture: the type
is 5 or 1, and `first_mb_in_slice`, which is 0 then, begins with a bit 1. -/
def IsFirstSlice (hdr b : UInt8) : Prop :=
  (hdr &&& 0x1f = 5 ∨ hdr &&& 0x1f = 1) ∧ b &&& 0x80 = 0x80

/-- The last three bytes of the start code of a first slice stand at `i`. -/
def FirstSliceAt (bs : Bytes) (i : ℕ) : Prop :=
  ∃ hdr b, [0, 0, 1, hdr, b] <+: bs.drop i ∧ IsFirstSlice hdr b

/-- The header of an SEI, an SPS or a PPS. -/
def IsParameters (hdr : UInt8) : Prop :=
  hdr &&& 0x1f = 6 ∨ hdr &&& 0x1f = 7 ∨ hdr &&& 0x1f = 8

/-- The start code of an SEI, an SPS, a PPS or a first slice stands at `i`. -/
def BoundaryAt (bs : Bytes) (i : ℕ) : Prop :=
  ∃ code ∈ startCodes,
    (∃ hdr, code ++ [hdr] <+: bs.drop i ∧ IsParameters hdr) ∨
      ∃ hdr b, code ++ [hdr, b] <+: bs.drop i ∧ IsFirstSlice hdr b

/-- A byte of a string that stands at `i`. -/
theorem getElem?_of_prefix_drop {xs bs : Bytes} {i k : ℕ} {b : UInt8} (h : xs <+: bs.drop i)
    (hk : xs[k]? = some b) : bs[i + k]? = some b := by
  obtain ⟨rest, hrest⟩ := h
  rw [← List.getElem?_drop, ← hrest,
    List.getElem?_append_left (List.getElem?_eq_some_iff.mp hk).1, hk]

/-- A byte that stands behind a segment. -/
theorem append_prefix_drop {xs bs : Bytes} {i : ℕ} {b : UInt8} (h : xs <+: bs.drop i)
    (hb : bs[i + xs.length]? = some b) : xs ++ [b] <+: bs.drop i := by
  obtain ⟨rest, hrest⟩ := h
  rw [← List.getElem?_drop, ← hrest, List.getElem?_append_right le_rfl, Nat.sub_self] at hb
  cases rest with
  | nil => cases hb
  | cons c rest =>
    cases hb
    exact ⟨rest, by rw [← hrest, List.append_assoc, List.singleton_append]⟩

/-- The bytes of a first slice. -/
theorem FirstSliceAt.bytes {bs : Bytes} {i : ℕ} (h : FirstSliceAt bs i) :
    bs[i]? = some 0 ∧ bs[i + 1]? = some 0 ∧ bs[i + 2]? = some 1 ∧
      ∃ hdr b, bs[i + 3]? = some hdr ∧ bs[i + 4]? = some b ∧ IsFirstSlice hdr b := by
  obtain ⟨hdr, b, hpre, hslice⟩ := h
  exact ⟨getElem?_of_prefix_drop (k := 0) hpre rfl, getElem?_of_prefix_drop hpre rfl,
    getElem?_of_prefix_drop hpre rfl, hdr, b, getElem?_of_prefix_drop hpre rfl,
    getElem?_of_prefix_drop hpre rfl, hslice⟩

/-- Neither byte of a first slice is zero. -/
theorem IsFirstSlice.ne_zero {hdr b : UInt8} (h : IsFirstSlice hdr b) : hdr ≠ 0 ∧ b ≠ 0 := by
  refine ⟨?_, ?_⟩
  · rintro rfl
    exact absurd h.1 (by decide)
  · rintro rfl
    exact absurd h.2 (by decide)

/-- **Two first slices are five bytes apart.** -/
theorem FirstSliceAt.apart {bs : Bytes} {i j : ℕ} (h : FirstSliceAt bs i)
    (h' : FirstSliceAt bs j) (hlt : i < j) : i + 5 ≤ j := by
  obtain ⟨-, -, h2, hdr, b, h3, h4, hslice⟩ := h.bytes
  obtain ⟨hhdr, hb⟩ := hslice.ne_zero
  obtain ⟨h0', h1', -⟩ := h'.bytes
  by_contra hnear
  obtain rfl | rfl | rfl | rfl : j = i + 1 ∨ j = i + 2 ∨ j = i + 3 ∨ j = i + 4 := by omega
  · cases h1'.symm.trans h2
  · cases h0'.symm.trans h2
  · cases h0'.symm.trans h3
    exact hhdr rfl
  · cases h0'.symm.trans h4
    exact hb rfl

/-- A first slice of the beginning of a string is one that ends there. -/
theorem firstSliceAt_take_iff {bs : Bytes} {i e : ℕ} :
    FirstSliceAt (bs.take e) i ↔ FirstSliceAt bs i ∧ i + 5 ≤ e := by
  unfold FirstSliceAt
  rw [List.drop_take]
  constructor
  · rintro ⟨hdr, b, hpre, hslice⟩
    obtain ⟨hpre, hlen⟩ := List.prefix_take_iff.mp hpre
    have hlen : 5 ≤ e - i := hlen
    exact ⟨⟨hdr, b, hpre, hslice⟩, by omega⟩
  · rintro ⟨⟨hdr, b, hpre, hslice⟩, hlen⟩
    exact ⟨hdr, b, List.prefix_take_iff.mpr ⟨hpre, show 5 ≤ e - i by omega⟩, hslice⟩

/-- A boundary in a segment of a string is one in the string. -/
theorem BoundaryAt.of_segment {bs : Bytes} {off k i : ℕ}
    (h : BoundaryAt ((bs.drop off).take k) i) : BoundaryAt bs (off + i) := by
  have hdrop : ((bs.drop off).take k).drop i <+: bs.drop (off + i) := by
    rw [List.drop_take, List.drop_drop]
    exact List.take_prefix _ _
  obtain ⟨code, hcode, ⟨hdr, hpre, htype⟩ | ⟨hdr, b, hpre, hslice⟩⟩ := h
  · exact ⟨code, hcode, .inl ⟨hdr, hpre.trans hdrop, htype⟩⟩
  · exact ⟨code, hcode, .inr ⟨hdr, b, hpre.trans hdrop, hslice⟩⟩

/-- A string starts with a start code where it has a boundary. -/
theorem BoundaryAt.startCode {bs : Bytes} {i : ℕ} (h : BoundaryAt bs i) :
    ∃ code ∈ startCodes, code <+: bs.drop i := by
  obtain ⟨code, hcode, ⟨hdr, hpre, -⟩ | ⟨hdr, b, hpre, -⟩⟩ := h
  · exact ⟨code, hcode, (List.prefix_append _ _).trans hpre⟩
  · exact ⟨code, hcode, (List.prefix_append _ _).trans hpre⟩

/-! ## What the loops find in a window -/

namespace H264File

variable {w : Bytes}

theorem matchesAt_byteAt_iff {bs : Bytes} :
    ∀ {i : ℕ}, matchesAt (byteAt w) i bs = .ok true ↔ bs <+: w.drop i := by
  induction bs with
  | nil => exact fun {i} => iff_of_true rfl (List.nil_prefix)
  | cons b bs ih =>
    intro i
    unfold matchesAt
    rw [Except.bind_eq_ok_iff]
    constructor
    · rintro ⟨c, hc, h⟩
      split at h
      · rename_i hcb
        obtain ⟨hi, hw⟩ := List.getElem?_eq_some_iff.mp (byteAt_eq_ok_iff.mp hc)
        rw [List.drop_eq_getElem_cons hi, hw, hcb]
        exact List.cons_prefix_cons.mpr ⟨rfl, ih.mp h⟩
      · cases h
    · intro h
      have hi : i < w.length := by
        by_contra hout
        rw [List.drop_of_length_le (by omega)] at h
        cases List.prefix_nil.mp h
      rw [List.drop_eq_getElem_cons hi] at h
      obtain ⟨hb, hbs⟩ := List.cons_prefix_cons.mp h
      refine ⟨w[i], byteAt_eq_ok_iff.mpr (List.getElem?_eq_getElem hi), ?_⟩
      rw [if_pos hb.symm]
      exact ih.mpr hbs

/-- A start code that is found stands there. -/
theorem startCode_of_startCodeAt {i sc : ℕ} (h : startCodeAt (byteAt w) i = .ok (some sc)) :
    ∃ code ∈ startCodes, code.length = sc ∧ code <+: w.drop i := by
  obtain ⟨rfl, hm⟩ | ⟨rfl, hm⟩ := startCodeAt_eq_some h
  · exact ⟨[0, 0, 1], by decide, rfl, matchesAt_byteAt_iff.mp hm⟩
  · exact ⟨[0, 0, 0, 1], by decide, rfl, matchesAt_byteAt_iff.mp hm⟩

/-- The short form is found wherever it stands. -/
theorem startCodeAt_of_startCode {i : ℕ} (h : [0, 0, 1] <+: w.drop i) :
    startCodeAt (byteAt w) i = .ok (some 3) := by
  unfold startCodeAt
  rw [matchesAt_byteAt_iff.mpr h]
  rfl

theorem isFirstSlice_byteAt_iff {j : ℕ} :
    isFirstSlice (byteAt w) j = .ok true ↔
      ∃ hdr b, w[j]? = some hdr ∧ w[j + 1]? = some b ∧ IsFirstSlice hdr b := by
  unfold isFirstSlice
  rw [Except.bind_eq_ok_iff]
  constructor
  · rintro ⟨hdr, hhdr, h⟩
    split at h
    · rename_i htype
      obtain ⟨b, hb, h⟩ := Except.bind_eq_ok_iff.mp h
      exact ⟨hdr, b, byteAt_eq_ok_iff.mp hhdr, byteAt_eq_ok_iff.mp hb, htype,
        of_decide_eq_true (Except.ok.inj h)⟩
    · cases h
  · rintro ⟨hdr, b, hhdr, hb, htype, hbit⟩
    refine ⟨hdr, byteAt_eq_ok_iff.mpr hhdr, ?_⟩
    rw [if_pos htype]
    refine Except.bind_eq_ok_iff.mpr ⟨b, byteAt_eq_ok_iff.mpr hb, ?_⟩
    rw [hbit]
    rfl

theorem isBoundary_byteAt_iff {j : ℕ} :
    isBoundary (byteAt w) j = .ok true ↔
      (∃ hdr, w[j]? = some hdr ∧ IsParameters hdr) ∨ isFirstSlice (byteAt w) j = .ok true := by
  unfold isBoundary
  rw [Except.bind_eq_ok_iff]
  constructor
  · rintro ⟨hdr, hhdr, h⟩
    split at h
    · exact .inl ⟨hdr, byteAt_eq_ok_iff.mp hhdr, ‹_›⟩
    · exact .inr h
  · rintro (⟨hdr, hhdr, htype⟩ | h)
    · exact ⟨hdr, byteAt_eq_ok_iff.mpr hhdr, if_pos htype⟩
    · obtain ⟨hdr, b, hhdr, -⟩ := isFirstSlice_byteAt_iff.mp h
      refine ⟨hdr, byteAt_eq_ok_iff.mpr hhdr, ?_⟩
      split
      · rfl
      · exact h

/-- The loops find a first slice in its short form. -/
theorem startCodeAt_of_firstSliceAt {i : ℕ} (h : FirstSliceAt w i) :
    startCodeAt (byteAt w) i = .ok (some 3) ∧ isFirstSlice (byteAt w) (i + 3) = .ok true := by
  obtain ⟨-, -, -, hdr, b, hhdr, hb, hslice⟩ := h.bytes
  obtain ⟨hdr', b', hpre, -⟩ := h
  exact ⟨startCodeAt_of_startCode ((List.prefix_append [0, 0, 1] [hdr', b']).trans hpre),
    isFirstSlice_byteAt_iff.mpr ⟨hdr, b, hhdr, hb, hslice⟩⟩

/-- What the first loop stops at is a first slice, in its short or its long
form. -/
theorem firstSliceAt_of_startCodeAt {i sc : ℕ} (hsc : startCodeAt (byteAt w) i = .ok (some sc))
    (htest : isFirstSlice (byteAt w) (i + sc) = .ok true) :
    FirstSliceAt w i ∨ FirstSliceAt w (i + 1) := by
  obtain ⟨hdr, b, hhdr, hb, hslice⟩ := isFirstSlice_byteAt_iff.mp htest
  obtain ⟨rfl, hm⟩ | ⟨rfl, hm⟩ := startCodeAt_eq_some hsc
  · have hcode := matchesAt_byteAt_iff.mp hm
    exact .inl ⟨hdr, b, append_prefix_drop (append_prefix_drop hcode hhdr) hb, hslice⟩
  · have hcode : [0, 0, 1] <+: w.drop (i + 1) := by
      have hlong := (matchesAt_byteAt_iff.mp hm).drop 1
      rwa [List.drop_drop] at hlong
    exact .inr ⟨hdr, b, append_prefix_drop (append_prefix_drop hcode hhdr) hb, hslice⟩

/-- What the second loop stops at is a boundary. -/
theorem boundaryAt_of_startCodeAt {i sc : ℕ} (hsc : startCodeAt (byteAt w) i = .ok (some sc))
    (htest : isBoundary (byteAt w) (i + sc) = .ok true) : BoundaryAt w i := by
  obtain ⟨code, hcode, rfl, hpre⟩ := startCode_of_startCodeAt hsc
  obtain ⟨hdr, hhdr, htype⟩ | hslice := isBoundary_byteAt_iff.mp htest
  · exact ⟨code, hcode, .inl ⟨hdr, append_prefix_drop hpre hhdr, htype⟩⟩
  · obtain ⟨hdr, b, hhdr, hb, hslice⟩ := isFirstSlice_byteAt_iff.mp hslice
    have hboth := append_prefix_drop (append_prefix_drop hpre hhdr)
      (b := b) (by rwa [List.length_append, ← Nat.add_assoc])
    rw [List.append_assoc] at hboth
    exact ⟨code, hcode, .inr ⟨hdr, b, hboth, hslice⟩⟩

/-- **A search passes over nothing** that it is to stop at. -/
theorem search_skips {get : ℕ → Except Fault UInt8} {test : ℕ → Except Fault Bool} {k : ℕ} :
    ∀ {i j : ℕ}, search get test k i = .ok (some j) → ∀ p, i ≤ p → p < j →
      ∀ sc, startCodeAt get p = .ok (some sc) → test (p + sc) = .ok false := by
  induction k with
  | zero => intro i j h; cases h
  | succ k ih =>
    intro i j h p hle hlt sc hsc
    have hnext : search get test k (i + 1) = .ok (some j) → i ≠ p → test (p + sc) = .ok false :=
      fun h hne => ih h p (by omega) hlt sc hsc
    rw [search, Except.bind_eq_ok_iff] at h
    obtain ⟨sc', hsc', h⟩ := h
    cases sc' with
    | none =>
      refine hnext h ?_
      rintro rfl
      cases hsc.symm.trans hsc'
    | some sc' =>
      obtain ⟨t, ht, h⟩ := Except.bind_eq_ok_iff.mp h
      cases t with
      | false =>
        rw [if_neg Bool.false_ne_true] at h
        by_cases hp : i = p
        · subst hp
          cases hsc.symm.trans hsc'
          exact ht
        · exact hnext h hp
      | true =>
        rw [if_pos rfl] at h
        cases h
        omega

/-- **A frame that ends before a start code** has exactly one first slice. -/
theorem oneFirstSlice_of_scan {len s e : ℕ}
    (h : scanWindow (byteAt w) len = .ok (some s, some e)) :
    BoundaryAt w e ∧ ∃! i, FirstSliceAt (w.take e) i := by
  obtain ⟨hfirst, hsecond⟩ := scanLoops_eq_ok h
  obtain ⟨-, -, sc, hsc, htest⟩ := search_eq_some hfirst
  obtain ⟨hle, -, sc', hsc', htest'⟩ := search_eq_some hsecond
  have hle : s + 4 ≤ e := hle
  have hend := boundaryAt_of_startCodeAt hsc' htest'
  refine ⟨hend, ?_⟩
  obtain ⟨i₀, hi₀, hslice₀⟩ : ∃ i₀, (i₀ = s ∨ i₀ = s + 1) ∧ FirstSliceAt w i₀ := by
    rcases firstSliceAt_of_startCodeAt hsc htest with hslice | hslice
    · exact ⟨s, .inl rfl, hslice⟩
    · exact ⟨s + 1, .inr rfl, hslice⟩
  -- a start code begins with a zero, and so does not stand at the header or behind it
  have hroom : i₀ + 5 ≤ e := by
    obtain ⟨code, hcode, hpre⟩ := hend.startCode
    have hzero : w[e]? = some 0 := by
      rcases List.mem_pair.mp hcode with rfl | rfl <;>
        exact getElem?_of_prefix_drop (k := 0) hpre rfl
    obtain ⟨-, -, -, hdr, b, hhdr, hb, hslice⟩ := hslice₀.bytes
    by_contra hshort
    obtain rfl | rfl : e = i₀ + 3 ∨ e = i₀ + 4 := by omega
    · cases hzero.symm.trans hhdr
      exact hslice.ne_zero.1 rfl
    · cases hzero.symm.trans hb
      exact hslice.ne_zero.2 rfl
  refine ⟨i₀, firstSliceAt_take_iff.mpr ⟨hslice₀, hroom⟩, fun i hi => ?_⟩
  obtain ⟨hslice, hin⟩ := firstSliceAt_take_iff.mp hi
  obtain ⟨hcode, hpass⟩ := startCodeAt_of_firstSliceAt hslice
  rcases Nat.lt_trichotomy i i₀ with hlt | rfl | hlt
  · -- the first loop has come by
    have hapart := hslice.apart hslice₀ hlt
    cases (search_skips hfirst i (Nat.zero_le i) (by omega) 3 hcode).symm.trans hpass
  · rfl
  · -- the second loop has come by
    have hapart := hslice₀.apart hslice hlt
    have hskip := search_skips hsecond i (show s + 4 ≤ i by omega) (by omega) 3 hcode
    cases hskip.symm.trans (isBoundary_byteAt_iff.mpr (.inr hpass))

/-! ## The reader without its buffer -/

/-- What a call depends on, once a file has been opened: the position in it and
the number of frames that came before in the pass, or nothing when it is
closed. -/
abbrev Cursor := Option (ℕ × ℤ)

/-- The window of a call at a position. -/
def windowAt (content : Bytes) (n pos : ℕ) : Bytes := (content.drop pos).take n

/-- What comes of a window whose search has ended. -/
def Cursor.advance (window : Bytes) (pos : ℕ) (count : ℤ) :
    Except Fault (Option ℕ × Option ℕ) → ReadResult × Cursor
  | .ok (some _, some e) =>
    (⟨e, some false, window.take e⟩, some (pos + e, toInt32 (count + 1)))
  | .ok (some _, none) =>
    if 0 < count then (⟨window.length, some true, window⟩, some (0, 0))
    else ({ ret := -1, endOfFrame := some false }, none)
  | _ => ({ ret := -1, endOfFrame := some false }, none)

/-- A call of `readFrame` as the file alone decides it. -/
def Cursor.read (content : Bytes) (n : ℕ) : Cursor → ReadResult × Cursor
  | none => ({ ret := -1 }, none)
  | some (pos, count) =>
    advance (windowAt content n pos) pos count
      (scanWindow (byteAt (windowAt content n pos)) (windowAt content n pos).length)

variable {n : ℕ}

theorem Cursor.read_some (content : Bytes) (pos : ℕ) (count : ℤ) :
    read content n (some (pos, count)) = advance (windowAt content n pos) pos count
      (scanWindow (byteAt (windowAt content n pos)) (windowAt content n pos).length) := rfl

/-- The cursor of a reader. -/
def cursor (f : H264File n) : Cursor := f.fp.map fun fp => (fp.pos, f.count)

section Cursor

variable {content : Bytes} {f f' : H264File n}

/-- A call never has to start over, and its window is in the file. -/
theorem Positioned.readWindow_eq (hf : f.Positioned content) (hn : 5 ≤ n)
    (hlen : 5 ≤ content.length) {fp : File} (hfp : f.fp = some fp) :
    5 ≤ (windowAt content n fp.pos).length ∧ f.readWindow fp
      = (windowAt content n fp.pos,
          { fp with pos := fp.pos + (windowAt content n fp.pos).length }, f) := by
  obtain ⟨rfl, -, hpos⟩ := hf fp hfp
  have hwindow : 5 ≤ (windowAt fp.content n fp.pos).length := by
    unfold windowAt
    rw [List.length_take, List.length_drop]
    omega
  have hne : (fp.fread n).1 ≠ [] := List.length_pos_iff.mp (by
    show 0 < (windowAt fp.content n fp.pos).length
    omega)
  refine ⟨hwindow, ?_⟩
  unfold readWindow
  dsimp only
  rw [if_neg hne]
  rfl

/-- **What a call returns, and where it leaves the reader**, does not depend on
the buffer. -/
theorem cursor_readFrame (hf : f.Positioned content) (hn : 5 ≤ n) (hlen : 5 ≤ content.length)
    (hint : content.length < 2 ^ 31) {m : ℕ} (hm : n ≤ m) {r : ReadResult}
    (h : f.readFrame m = .ok (r, f')) : f.cursor.read content n = (r, f'.cursor) := by
  unfold readFrame at h
  cases hfp : f.fp with
  | none =>
    rw [hfp] at h
    cases h
    unfold cursor
    rw [hfp]
    rfl
  | some fp =>
    obtain ⟨h5, hwindow⟩ := hf.readWindow_eq hn hlen hfp
    obtain ⟨rfl, hused, -⟩ := hf fp hfp
    have hshort : (windowAt fp.content n fp.pos).length = min n (fp.content.length - fp.pos) := by
      unfold windowAt
      rw [List.length_take, List.length_drop]
    have hcursor : f.cursor = some (fp.pos, f.count) := by
      unfold cursor
      rw [hfp]
      rfl
    rw [hfp] at h
    dsimp only at h
    rw [hwindow] at h
    dsimp only at h
    rw [if_neg (List.length_pos_iff.mp (by omega))] at h
    obtain ⟨start, stop, hbuffer, hcases⟩ := scanFrame_cases h
    -- the search of the buffer is the search of the window
    have hscan : scanWindow (byteAt (windowAt fp.content n fp.pos))
        (windowAt fp.content n fp.pos).length = .ok (start, stop) := by
      obtain ⟨res, hres, hfilled⟩ := scanWindow_filled
        (show (windowAt fp.content n fp.pos).length ≤ n by omega) h5
      rw [hres, ← hfilled f.buffer]
      exact hbuffer
    rw [hcursor, Cursor.read_some, hscan]
    rcases hcases with ⟨rfl, rfl, hrejected⟩ | ⟨s, e, rfl, rfl, rfl, rfl⟩
      | ⟨s, rfl, rfl, hcount, rfl, rfl⟩
    · obtain rfl | ⟨rfl, hcount⟩ := hrejected
      · rfl
      · cases start with
        | none => rfl
        | some s => exact if_neg hcount
    · have hstop := (stop_add_six_le h5 hscan).2
      have hret : toInt32 (e : ℤ) = e := toInt32_of_lt (by omega) (by omega)
      have hnext : toInt32 ((fp.pos : ℤ) + e) = (fp.pos + e : ℕ) := by
        rw [toInt32_of_lt (by omega) (by omega), Int.natCast_add]
      rw [Nat.min_eq_left (by omega), take_filled (by omega) (by omega), hused, hret, hnext]
      unfold cursor File.fseek
      rw [if_neg (by omega)]
      rfl
    · have hret : toInt32 ((windowAt fp.content n fp.pos).length : ℤ)
          = (windowAt fp.content n fp.pos).length := toInt32_of_lt (by omega) (by omega)
      rw [Nat.min_eq_left (by omega), take_filled (by omega) le_rfl, List.take_length, hret]
      exact if_pos hcount

/-- The outcomes of a call. -/
theorem Cursor.read_cases {c c' : Cursor} {r : ReadResult} (h : c.read content n = (r, c')) :
    r.ret = -1 ∧ r.endOfFrame ≠ some true ∧ c' = none ∨
    (∃ pos count s e, c = some (pos, count) ∧
      scanWindow (byteAt (windowAt content n pos)) (windowAt content n pos).length
        = .ok (some s, some e) ∧
      r = ⟨e, some false, (windowAt content n pos).take e⟩ ∧
      c' = some (pos + e, toInt32 (count + 1))) ∨
    r.endOfFrame = some true ∧ c' = some (0, 0) := by
  cases c with
  | none =>
    cases h
    exact .inl ⟨rfl, nofun, rfl⟩
  | some pc =>
    obtain ⟨pos, count⟩ := pc
    rw [read_some] at h
    cases hscan : scanWindow (byteAt (windowAt content n pos)) (windowAt content n pos).length with
    | error fault =>
      rw [hscan] at h
      cases h
      exact .inl ⟨rfl, nofun, rfl⟩
    | ok res =>
      obtain ⟨start, stop⟩ := res
      rw [hscan] at h
      cases start with
      | none =>
        cases h
        exact .inl ⟨rfl, nofun, rfl⟩
      | some s =>
        cases stop with
        | some e =>
          cases h
          exact .inr (.inl ⟨pos, count, s, e, rfl, hscan, rfl, rfl⟩)
        | none =>
          unfold advance at h
          dsimp only at h
          split at h
          · cases h
            exact .inr (.inr ⟨rfl, rfl⟩)
          · cases h
            exact .inl ⟨rfl, nofun, rfl⟩

end Cursor

/-! ## The frames of a pass -/

/-- The frames that a run has returned since `*endOfFrame` was last set. -/
def passBytes (calls : List (ℕ × ReadResult)) : Bytes :=
  (calls.rtakeWhile fun call => call.2.endOfFrame ≠ some true).flatMap (·.2.frame)

theorem passBytes_snoc (calls : List (ℕ × ReadResult)) (call : ℕ × ReadResult)
    (h : call.2.endOfFrame ≠ some true) :
    passBytes (calls ++ [call]) = passBytes calls ++ call.2.frame := by
  unfold passBytes
  rw [List.rtakeWhile_concat, if_pos (decide_eq_true h), List.flatMap_append,
    List.flatMap_singleton]

theorem passBytes_snoc_end {calls : List (ℕ × ReadResult)} {call : ℕ × ReadResult}
    (h : call.2.endOfFrame = some true) : passBytes (calls ++ [call]) = [] := by
  unfold passBytes
  rw [List.rtakeWhile_concat, if_neg (by simpa using h)]
  rfl

/-- **A frame that is not the last of its pass**: it starts where the frames
before it end, with a start code unless it is the first; it has exactly one
first slice; and where it ends the file has the start code of an SEI, a
parameter set or a first slice. -/
structure IsPicture (content before frame : Bytes) : Prop where
  follows : before ++ frame <+: content
  starts : before ≠ [] → ∃ code ∈ startCodes, code <+: frame
  slice : ∃! i, FirstSliceAt frame i
  stops : BoundaryAt content (before.length + frame.length)

/-- **The pass so far is the file up to the position**, which stands at a
boundary. This is what makes the next frame begin where the last one ended, and
begin with a start code. -/
def InPass (content pass : Bytes) (c : Cursor) : Prop :=
  ∀ pos count, c = some (pos, count) →
    pass = content.take pos ∧ (pos ≠ 0 → BoundaryAt content pos)

/-- The next frame of a pass. -/
theorem isPicture_of_scan {content : Bytes} {pos s e : ℕ} (hpos : pos ≤ content.length)
    (h5 : 5 ≤ (windowAt content n pos).length) (hstart : pos ≠ 0 → BoundaryAt content pos)
    (hscan : scanWindow (byteAt (windowAt content n pos)) (windowAt content n pos).length
      = .ok (some s, some e)) :
    content.take pos ++ (windowAt content n pos).take e = content.take (pos + e) ∧
      IsPicture content (content.take pos) ((windowAt content n pos).take e) ∧
      BoundaryAt content (pos + e) := by
  obtain ⟨hle, hstop⟩ := stop_add_six_le h5 hscan
  obtain ⟨hend, hone⟩ := oneFirstSlice_of_scan hscan
  have hwindow : (windowAt content n pos).length ≤ n := List.length_take_le _ _
  have hframe : (windowAt content n pos).take e = (content.drop pos).take e := by
    unfold windowAt
    rw [List.take_take, Nat.min_eq_left (by omega)]
  have hnext : content.take pos ++ (windowAt content n pos).take e = content.take (pos + e) := by
    rw [hframe, take_append_window]
  have hboundary : BoundaryAt content (pos + e) := hend.of_segment
  refine ⟨hnext, ⟨?_, fun hne => ?_, hone, ?_⟩, hboundary⟩
  · rw [hnext]
    exact List.take_prefix _ _
  · have hne : pos ≠ 0 := by
      rintro rfl
      exact hne List.take_zero
    obtain ⟨code, hcode, hpre⟩ := (hstart hne).startCode
    have hshort : code.length ≤ 4 := by
      rcases List.mem_pair.mp hcode with rfl | rfl <;> decide
    rw [hframe]
    exact ⟨code, hcode, List.prefix_take_iff.mpr ⟨hpre, by omega⟩⟩
  · rwa [List.length_take_of_le hpos, List.length_take_of_le (by omega)]

/-- The runs of calls whose buffer takes all of a window. -/
def frameSystem (content : Bytes) (n : ℕ) : System (H264File n) (ℕ × ReadResult) :=
  (readSystem content n).restrict fun _ call => n ≤ call.1

section Frames

variable {content : Bytes} {f f' : H264File n}

/-- **One call**: it keeps the pass, and a frame that is not the last one is a
picture. -/
theorem inPass_step (hf : f.Positioned content) (hn : 5 ≤ n) (hlen : 5 ≤ content.length)
    (hint : content.length < 2 ^ 31) {calls : List (ℕ × ReadResult)} {call : ℕ × ReadResult}
    (hpass : InPass content (passBytes calls) f.cursor)
    (h : (frameSystem content n).step f call f') :
    InPass content (passBytes (calls ++ [call])) f'.cursor ∧
      (call.2.ret ≠ -1 → call.2.endOfFrame = some false →
        IsPicture content (passBytes calls) call.2.frame) := by
  obtain ⟨m, r⟩ := call
  obtain ⟨hm, hstep⟩ := h
  have hread := cursor_readFrame hf hn hlen hint hm hstep
  obtain ⟨hret, -, hclosed⟩ | ⟨pos, count, s, e, hcursor, hscan, rfl, hnext⟩ | ⟨hend, hnext⟩ :=
    Cursor.read_cases hread
  · refine ⟨fun pos count hpos => ?_, fun hne => absurd hret hne⟩
    cases hclosed.symm.trans hpos
  · obtain ⟨fp, hfp, hfields⟩ := Option.map_eq_some_iff.mp hcursor
    cases hfields
    obtain ⟨htake, hstart⟩ := hpass _ _ hcursor
    obtain ⟨h5, -⟩ := hf.readWindow_eq hn hlen hfp
    obtain ⟨rfl, -, hpos⟩ := hf fp hfp
    obtain ⟨hjoin, hpicture, hboundary⟩ := isPicture_of_scan (by omega) h5 hstart hscan
    rw [passBytes_snoc _ _ (show (some false : Option Bool) ≠ some true by decide), htake]
    refine ⟨fun pos' count' hpos' => ?_, fun _ _ => hpicture⟩
    cases hnext.symm.trans hpos'
    exact ⟨hjoin, fun _ => hboundary⟩
  · refine ⟨fun pos count hpos => ?_, fun _ hmore => ?_⟩
    · cases hnext.symm.trans hpos
      exact ⟨(passBytes_snoc_end hend).trans List.take_zero.symm, fun hne => absurd rfl hne⟩
    · cases hend.symm.trans hmore

theorem inPass_of_run (hn : 5 ≤ n) (hlen : 5 ≤ content.length) (hint : content.length < 2 ^ 31)
    {calls : List (ℕ × ReadResult)} (hrun : (frameSystem content n).Run calls f) :
    InPass content (passBytes calls) f.cursor := by
  induction hrun with
  | nil hinit =>
    obtain ⟨garbage, rfl⟩ := hinit
    rintro pos count hpos
    cases hpos
    exact ⟨rfl, fun hne => absurd rfl hne⟩
  | snoc hrun hstep ih =>
    exact (inPass_step (positioned_of_run hn hlen hint hrun.of_restrict) hn hlen hint ih hstep).1

/-- Two readers of a file at the same cursor. -/
structure SameCursor (content : Bytes) (f g : H264File n) : Prop where
  left : f.Positioned content
  right : g.Positioned content
  cursor : f.cursor = g.cursor

/-- Readers at the same cursor return the same. -/
theorem SameCursor.step (hn : 5 ≤ n) (hlen : 5 ≤ content.length) (hint : content.length < 2 ^ 31)
    {g g' : H264File n} {call call' : ℕ × ReadResult} (h : SameCursor content f g)
    (hf : (frameSystem content n).step f call f') (hg : (frameSystem content n).step g call' g') :
    call.2 = call'.2 ∧ SameCursor content f' g' := by
  have hread := cursor_readFrame h.left hn hlen hint hf.1 hf.2
  have hread' := cursor_readFrame h.right hn hlen hint hg.1 hg.2
  rw [h.cursor, hread'] at hread
  obtain ⟨hresult, hcursor⟩ := Prod.mk.inj hread
  exact ⟨hresult.symm, h.left.step hn hlen hint hf.2, h.right.step hn hlen hint hg.2,
    hcursor.symm⟩

/-- **The calls after the end of the file return what the first calls
returned.** -/
theorem repeats_of_run (hn : 5 ≤ n) (hlen : 5 ≤ content.length) (hint : content.length < 2 ^ 31)
    {before after : List (ℕ × ReadResult)} {call : ℕ × ReadResult}
    (hrun : (frameSystem content n).Run (before ++ [call] ++ after) f)
    (hend : call.2.endOfFrame = some true) :
    after.map (·.2) <+: (before ++ [call] ++ after).map (·.2) := by
  refine System.Run.repeats (fun h hf hg => SameCursor.step hn hlen hint h hf hg) ?_ hrun
  rintro g _ hback ⟨garbage, rfl⟩
  obtain ⟨f₀, hrun₀, hstep⟩ := hback.of_snoc
  have hread := cursor_readFrame (positioned_of_run hn hlen hint hrun₀.of_restrict) hn hlen hint
    hstep.1 hstep.2
  have hnew : (frameSystem content n).Run [] (opened content garbage) := .nil ⟨garbage, rfl⟩
  refine ⟨positioned_of_run hn hlen hint hback.of_restrict,
    positioned_of_run hn hlen hint hnew.of_restrict, ?_⟩
  obtain ⟨-, hmore, -⟩ | ⟨_, _, _, _, -, -, hframe, -⟩ | ⟨-, hcursor⟩ := Cursor.read_cases hread
  · exact absurd hend hmore
  · rw [hframe] at hend
    cases hend
  · exact hcursor

/-- **Each frame before the last one of a pass is one picture, and each pass
returns the same frames**, in every run of calls on every file of at least five
bytes whose positions an `int` holds. -/
theorem frames_of_run (hn : 5 ≤ n) (hlen : 5 ≤ content.length) (hint : content.length < 2 ^ 31)
    {calls : List (ℕ × ReadResult)} (hrun : (frameSystem content n).Run calls f) :
    (∀ before call after, calls = before ++ [call] ++ after → call.2.ret ≠ -1 →
      call.2.endOfFrame = some false →
        IsPicture content (passBytes before) call.2.frame) ∧
    (∀ before call after, calls = before ++ [call] ++ after → call.2.endOfFrame = some true →
      after.map (·.2) <+: calls.map (·.2)) := by
  refine ⟨?_, ?_⟩
  · rintro before call after rfl hret hmore
    obtain ⟨f₁, hrun₁⟩ := hrun.of_append
    obtain ⟨f₀, hrun₀, hstep⟩ := hrun₁.of_snoc
    exact (inPass_step (positioned_of_run hn hlen hint hrun₀.of_restrict) hn hlen hint
      (inPass_of_run hn hlen hint hrun₀) hstep).2 hret hmore
  · rintro before call after rfl hend
    exact repeats_of_run hn hlen hint hrun hend

end Frames

/-- The call that returns the first access unit of `twoUnits`. -/
def firstUnit : ℕ × ReadResult := (12, ⟨5, some false, twoUnits.take 5⟩)

/-- The call that returns the second one. -/
def lastUnit : ℕ × ReadResult := (12, ⟨7, some true, twoUnits.drop 5⟩)

/-- A pass over `twoUnits`, and the first call of the next one. -/
theorem run_firstUnit :
    (frameSystem twoUnits 12).Run ([] ++ [firstUnit] ++ [lastUnit] ++ [firstUnit])
      (afterFirst twoUnits ⟨twoUnits, rfl⟩) := by
  have hopen : (frameSystem twoUnits 12).Run [] (opened twoUnits (Block.filled 12 0)) :=
    .nil ⟨_, rfl⟩
  have hfirst : (frameSystem twoUnits 12).Run ([] ++ [firstUnit])
      (afterFirst twoUnits ⟨twoUnits, rfl⟩) :=
    hopen.snoc ⟨le_rfl, show readFrame _ 12 = _ by decide +kernel⟩
  have hlast : (frameSystem twoUnits 12).Run ([] ++ [firstUnit] ++ [lastUnit])
      { fp := some { content := twoUnits }
        buffer := ⟨[0, 0, 1, 0x65, 0x88, 1, 1, 1, 0x65, 0x88, 1, 1], rfl⟩ } :=
    hfirst.snoc ⟨le_rfl, show readFrame _ 12 = _ by decide +kernel⟩
  exact hlast.snoc ⟨le_rfl, show readFrame _ 12 = _ by decide +kernel⟩

theorem frames_of_run_twoUnits : IsPicture twoUnits [] (twoUnits.take 5) ∧
    [firstUnit.2] <+: [firstUnit.2, lastUnit.2, firstUnit.2] := by
  obtain ⟨hpicture, hrepeats⟩ := frames_of_run (by decide) (by decide) (by decide) run_firstUnit
  exact ⟨hpicture [] firstUnit [lastUnit, firstUnit] rfl (by decide) rfl,
    hrepeats [firstUnit] lastUnit [firstUnit] rfl rfl⟩

end H264File
