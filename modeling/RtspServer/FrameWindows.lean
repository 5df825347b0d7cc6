import RtspServer.H264File

/-!
# What the search loops read

The two loops of `readFrame` run to `bytesRead - 5`, and the body reads at
most five bytes ahead: they stay inside the window that was read. The bound
is an unsigned difference. A window of fewer than five bytes makes it almost
`2 ^ 64`, and the loops run on through whatever the buffer holds behind the
window, and out of it (`scansInside_iff`).

A frame ends at a start code the second loop has found, so at least six bytes
of the file are left behind it. That keeps short windows away from every call
of every run, once the file and the buffer have five bytes
(`forall_scansInside_iff`).
-/

namespace Except

variable {ε α β : Type}

/-- `y` gives whatever `x` gives. -/
def Refines (x y : Except ε α) : Prop := ∀ a, x = .ok a → y = .ok a

/-- `x` gives something. -/
def Succeeds (x : Except ε α) : Prop := ∃ a, x = .ok a

theorem Refines.refl (x : Except ε α) : x.Refines x := fun _ h => h

theorem Refines.bind {x y : Except ε α} {f g : α → Except ε β} (h : x.Refines y)
    (hfg : ∀ a, (f a).Refines (g a)) : (x >>= f).Refines (y >>= g) := by
  intro b hb
  obtain ⟨a, ha, hb⟩ := bind_eq_ok_iff.mp hb
  exact bind_eq_ok_iff.mpr ⟨a, h a ha, hfg a b hb⟩

theorem Refines.ite {p : Prop} [Decidable p] {x y x' y' : Except ε α} (h : x.Refines x')
    (h' : y.Refines y') : (if p then x else y).Refines (if p then x' else y') := by
  split
  · exact h
  · exact h'

theorem Succeeds.bind {x : Except ε α} {f : α → Except ε β} (h : x.Succeeds)
    (hf : ∀ a, x = .ok a → (f a).Succeeds) : (x >>= f).Succeeds := by
  obtain ⟨a, ha⟩ := h
  obtain ⟨b, hb⟩ := hf a ha
  exact ⟨b, bind_eq_ok_iff.mpr ⟨a, ha, hb⟩⟩

end Except

/-! ## The loops with another accessor -/

section Search

variable {get get' : ℕ → Except Fault UInt8}

theorem matchesAt_refines (h : ∀ i, (get i).Refines (get' i)) (bs : Bytes) :
    ∀ i, (matchesAt get i bs).Refines (matchesAt get' i bs) := by
  induction bs with
  | nil => exact fun _ => .refl _
  | cons b bs ih =>
    intro i
    exact (h i).bind fun _ => .ite (ih (i + 1)) (.refl _)

theorem startCodeAt_refines (h : ∀ i, (get i).Refines (get' i)) (i : ℕ) :
    (startCodeAt get i).Refines (startCodeAt get' i) :=
  (matchesAt_refines h _ i).bind fun _ =>
    .ite (.refl _) ((matchesAt_refines h _ i).bind fun _ => .ite (.refl _) (.refl _))

theorem isFirstSlice_refines (h : ∀ i, (get i).Refines (get' i)) (j : ℕ) :
    (isFirstSlice get j).Refines (isFirstSlice get' j) :=
  (h j).bind fun _ => .ite ((h (j + 1)).bind fun _ => .refl _) (.refl _)

theorem isBoundary_refines (h : ∀ i, (get i).Refines (get' i)) (j : ℕ) :
    (isBoundary get j).Refines (isBoundary get' j) :=
  (h j).bind fun _ => .ite (.refl _) (isFirstSlice_refines h j)

theorem search_refines {test test' : ℕ → Except Fault Bool} (h : ∀ i, (get i).Refines (get' i))
    (htest : ∀ j, (test j).Refines (test' j)) (k : ℕ) :
    ∀ i, (search get test k i).Refines (search get' test' k i) := by
  induction k with
  | zero => exact fun _ => .refl _
  | succ k ih =>
    intro i
    unfold search
    refine (startCodeAt_refines h i).bind fun sc => ?_
    cases sc with
    | none => exact ih (i + 1)
    | some sc => exact (htest _).bind fun _ => .ite (.refl _) (ih (i + 1))

/-- **An accessor that gives more** lets the loops find what they found
before. -/
theorem scanWindow_refines (h : ∀ i, (get i).Refines (get' i)) (bytesRead : ℕ) :
    (scanWindow get bytesRead).Refines (scanWindow get' bytesRead) :=
  (search_refines h (isFirstSlice_refines h) _ _).bind fun _ =>
    (search_refines h (isBoundary_refines h) _ _).bind fun _ => .refl _

/-! ## How far the loops read -/

variable {len : ℕ}

theorem matchesAt_succeeds (hget : ∀ i < len, (get i).Succeeds) (bs : Bytes) :
    ∀ {i : ℕ}, i + bs.length ≤ len → (matchesAt get i bs).Succeeds := by
  induction bs with
  | nil => exact fun _ => ⟨_, rfl⟩
  | cons b bs ih =>
    intro i hi
    rw [List.length_cons] at hi
    refine (hget i (by omega)).bind fun _ _ => ?_
    split
    · exact ih (by omega)
    · exact ⟨_, rfl⟩

/-- A start code is at most four bytes long. -/
theorem startCodeAt_succeeds (hget : ∀ i < len, (get i).Succeeds) {i : ℕ} (hi : i + 4 ≤ len) :
    (startCodeAt get i).Succeeds := by
  refine (matchesAt_succeeds hget [0, 0, 1] (show i + 3 ≤ len by omega)).bind fun _ _ => ?_
  split
  · exact ⟨_, rfl⟩
  · refine (matchesAt_succeeds hget [0, 0, 0, 1] hi).bind fun _ _ => ?_
    split <;> exact ⟨_, rfl⟩

/-- The test of a unit reads its header and the byte behind it. -/
theorem isFirstSlice_succeeds (hget : ∀ i < len, (get i).Succeeds) {j : ℕ} (hj : j + 2 ≤ len) :
    (isFirstSlice get j).Succeeds := by
  refine (hget j (by omega)).bind fun _ _ => ?_
  split
  · exact (hget (j + 1) (by omega)).bind fun _ _ => ⟨_, rfl⟩
  · exact ⟨_, rfl⟩

theorem isBoundary_succeeds (hget : ∀ i < len, (get i).Succeeds) {j : ℕ} (hj : j + 2 ≤ len) :
    (isBoundary get j).Succeeds := by
  refine (hget j (by omega)).bind fun _ _ => ?_
  split
  · exact ⟨_, rfl⟩
  · exact isFirstSlice_succeeds hget hj

/-- A loop reads at most five bytes ahead. -/
theorem search_succeeds {test : ℕ → Except Fault Bool} (hget : ∀ i < len, (get i).Succeeds)
    (htest : ∀ {j}, j + 2 ≤ len → (test j).Succeeds) {k : ℕ} :
    ∀ {i : ℕ}, (k ≠ 0 → i + k + 5 ≤ len) → (search get test k i).Succeeds := by
  induction k with
  | zero => exact fun _ => ⟨_, rfl⟩
  | succ k ih =>
    intro i hi
    have hroom := hi k.succ_ne_zero
    have hnext : (search get test k (i + 1)).Succeeds := ih fun _ => by omega
    unfold search
    refine (startCodeAt_succeeds hget (by omega)).bind fun sc hsc => ?_
    cases sc with
    | none => exact hnext
    | some sc =>
      have hshort : sc ≤ 4 := by
        obtain ⟨rfl, -⟩ | ⟨rfl, -⟩ := startCodeAt_eq_some hsc <;> omega
      refine (htest (by omega)).bind fun _ _ => ?_
      split
      · exact ⟨_, rfl⟩
      · exact hnext

theorem sizeSub_le {a b : ℕ} (h : b ≤ a) : sizeSub a b ≤ a - b := by
  unfold sizeSub
  rw [show a + 2 ^ 64 - b = a - b + 2 ^ 64 by omega, Nat.add_mod_right]
  exact Nat.mod_le _ _

/-- **A window of five bytes is never left.** -/
theorem scanWindow_succeeds (hget : ∀ i < len, (get i).Succeeds) (hlen : 5 ≤ len) :
    (scanWindow get len).Succeeds := by
  have hbound := sizeSub_le hlen
  refine (search_succeeds hget (isFirstSlice_succeeds hget) fun _ => by omega).bind
    fun start hstart => ?_
  refine (search_succeeds hget (isBoundary_succeeds hget) fun hne => ?_).bind
    fun _ _ => ⟨_, rfl⟩
  omega

/-- **A shorter one is**: the bound has wrapped, and a first slice ends the
first loop only five bytes on. -/
theorem not_scanWindow_succeeds (hget : ∀ i b, get i = .ok b → i < len) (hpos : 0 < len)
    (hlen : len < 5) : ¬(scanWindow get len).Succeeds := by
  rintro ⟨⟨start, stop⟩, h⟩
  have hbound : len < sizeSub len 5 := by
    unfold sizeSub
    omega
  obtain ⟨hfirst, -⟩ := scanLoops_eq_ok h
  cases start with
  | none =>
    obtain ⟨b, hb⟩ := search_eq_none hfirst len (Nat.zero_le _) (by omega)
    exact lt_irrefl _ (hget _ _ hb)
  | some s =>
    obtain ⟨-, -, sc, hsc, htest⟩ := search_eq_some hfirst
    have hread : ∃ b, get (s + sc + 1) = .ok b := by
      obtain ⟨b, -, htest⟩ := Except.bind_eq_ok_iff.mp htest
      split at htest
      · obtain ⟨b', hb', -⟩ := Except.bind_eq_ok_iff.mp htest
        exact ⟨b', hb'⟩
      · cases htest
    obtain ⟨b, hb⟩ := hread
    have := hget _ _ hb
    obtain ⟨rfl, -⟩ | ⟨rfl, -⟩ := startCodeAt_eq_some hsc <;> omega

end Search

namespace H264File

variable {n : ℕ}

/-- An access to the bytes that were read, and to no others. -/
def byteAt (window : Bytes) (i : ℕ) : Except Fault UInt8 :=
  match window[i]? with
  | some b => .ok b
  | none => .error .outOfBounds

theorem byteAt_eq_ok_iff {window : Bytes} {i : ℕ} {b : UInt8} :
    byteAt window i = .ok b ↔ window[i]? = some b := by
  unfold byteAt
  cases window[i]? with
  | none => exact ⟨nofun, nofun⟩
  | some b' => exact ⟨fun h => by cases h; rfl, fun h => by cases h; rfl⟩

theorem byteAt_succeeds {window : Bytes} {i : ℕ} (hi : i < window.length) :
    (byteAt window i).Succeeds :=
  ⟨window[i], byteAt_eq_ok_iff.mpr (List.getElem?_eq_getElem hi)⟩

theorem lt_of_byteAt {window : Bytes} {i : ℕ} {b : UInt8} (h : byteAt window i = .ok b) :
    i < window.length :=
  (List.getElem?_eq_some_iff.mp (byteAt_eq_ok_iff.mp h)).1

/-- The buffer holds the window at its start. -/
theorem byteAt_refines {buffer : Block n} {window : Bytes} (hlen : window.length ≤ n) (i : ℕ) :
    (byteAt window i).Refines (bufferAt (filled buffer window) i) := by
  intro b h
  have hi := lt_of_byteAt h
  have htake : (filled buffer window).toList.take window.length = window := by
    rw [take_filled hlen le_rfl, List.take_length]
  rw [bufferAt_eq_getElem?, ← List.getElem?_take_of_lt hi, htake]
  exact byteAt_eq_ok_iff.mp h

/-- **A call reads inside the bytes it has read from the file**, and its loops
end: they do so with an accessor that has no other bytes, and find the same in
the buffer. With a buffer that is larger than the window this is more than to
read inside the buffer, whose rest is of an earlier call. -/
def ScansInside (f : H264File n) : Prop :=
  ∀ fp chunk fp' f', f.fp = some fp → f.readWindow fp = (chunk, fp', f') → chunk ≠ [] →
    ∃ res, scanWindow (byteAt chunk) chunk.length = .ok res ∧
      scanWindow (bufferAt (filled f'.buffer chunk)) chunk.length = .ok res

/-- **The window of the call is empty or has five bytes**: as many as the
buffer takes, of those that are left in the file. The loops run to the length
less 5, which for a shorter window is a `size_t` near 2^64; with an empty one
the source closes the file before them. -/
def WindowFits (f : H264File n) : Prop :=
  ∀ fp, f.fp = some fp →
    min n (fp.content.length - windowOffset n fp) = 0 ∨
      5 ≤ min n (fp.content.length - windowOffset n fp)

/-- A window of five bytes is searched as it is in the file, whatever the
buffer held before. -/
theorem scanWindow_filled {chunk : Bytes} (hlen : chunk.length ≤ n) (h5 : 5 ≤ chunk.length) :
    ∃ res, scanWindow (byteAt chunk) chunk.length = .ok res ∧
      ∀ buffer : Block n, scanWindow (bufferAt (filled buffer chunk)) chunk.length = .ok res := by
  obtain ⟨res, hres⟩ := scanWindow_succeeds (fun i hi => byteAt_succeeds hi) h5
  exact ⟨res, hres, fun _ => scanWindow_refines (byteAt_refines hlen) _ _ hres⟩

theorem length_window {f : H264File n} {fp : File} {chunk : Bytes} {fp' : File} {f' : H264File n}
    (h : f.readWindow fp = (chunk, fp', f')) :
    chunk.length = min n (fp.content.length - windowOffset n fp) := by
  rw [(readWindow_spec f fp h).1, List.length_take, List.length_drop]

/-- **A call scans inside its window exactly when** that is not shorter than
five bytes. -/
theorem scansInside_iff (f : H264File n) : f.ScansInside ↔ f.WindowFits := by
  constructor
  · intro h fp hfp
    rcases hw : f.readWindow fp with ⟨chunk, fp', f'⟩
    rw [← length_window hw]
    by_cases hne : chunk = []
    · exact .inl (List.length_eq_zero_iff.mpr hne)
    · obtain ⟨res, hres, -⟩ := h fp chunk fp' f' hfp hw hne
      have hpos := List.length_pos_iff.mpr hne
      by_contra hshort
      exact not_scanWindow_succeeds (fun _ _ => lt_of_byteAt) hpos (by omega) ⟨res, hres⟩
  · intro h fp chunk fp' f' hfp hw hne
    have hlen := length_window hw
    have hpos := List.length_pos_iff.mpr hne
    have hfits := h fp hfp
    obtain ⟨res, hres, hbuffer⟩ := scanWindow_filled (show chunk.length ≤ n by omega) (by omega)
    exact ⟨res, hres, hbuffer _⟩

/-! ## Where the calls of a run begin -/

/-- The runs of calls on a file, each with the size of the caller's buffer. -/
def readSystem (content : Bytes) (n : ℕ) : System (H264File n) (ℕ × ReadResult) where
  init f := ∃ garbage, f = opened content garbage
  step f call f' := f.readFrame call.1 = .ok (call.2, f')

/-- **Where a call begins**: at the start of the file, or at a start code,
with six bytes of the file from there on: a start code ends a frame only
where the loop that looks for it has so many bytes left. -/
def Positioned (content : Bytes) (f : H264File n) : Prop :=
  ∀ fp, f.fp = some fp → fp.content = content ∧ f.bytesUsed = fp.pos ∧
    (fp.pos = 0 ∨ fp.pos + 6 ≤ content.length)

section Positioned

variable {content : Bytes} {f f' : H264File n}

/-- The window of such a call begins at the file position. -/
theorem Positioned.windowOffset_eq (hf : f.Positioned content) (hn : 1 ≤ n) {fp : File}
    (hfp : f.fp = some fp) : windowOffset n fp = fp.pos := by
  obtain ⟨rfl, -, hpos⟩ := hf fp hfp
  unfold windowOffset
  split
  · rename_i hnil
    rcases hpos with hpos | hpos
    · exact hpos.symm
    · have := congrArg List.length hnil
      unfold File.fread at this
      simp only [List.length_take, List.length_drop, List.length_nil] at this
      omega
  · rfl

/-- **Its window has five bytes**, if the buffer and the file do. -/
theorem Positioned.windowFits (hf : f.Positioned content) (hn : 5 ≤ n)
    (hlen : 5 ≤ content.length) : f.WindowFits := by
  intro fp hfp
  have hoffset := hf.windowOffset_eq (by omega) hfp
  obtain ⟨rfl, -, hpos⟩ := hf fp hfp
  rw [hoffset]
  omega

/-- The start code that ends a frame has six bytes of the window. -/
theorem stop_add_six_le {get : ℕ → Except Fault UInt8} {len s e : ℕ} (h5 : 5 ≤ len)
    (h : scanWindow get len = .ok (some s, some e)) : s + 4 ≤ e ∧ e + 6 ≤ len := by
  obtain ⟨hle, hlt, -⟩ := search_eq_some (scanLoops_eq_ok h).2
  have hbound := sizeSub_le h5
  have hle : s + 4 ≤ e := hle
  have hlt : e < s + 4 + (sizeSub len 5 - (s + 4)) := hlt
  omega

/-- **One call** on a file whose positions an `int` holds. -/
theorem Positioned.step (hf : f.Positioned content) (hn : 5 ≤ n) (hlen : 5 ≤ content.length)
    (hint : content.length < 2 ^ 31) {call : ℕ × ReadResult}
    (h : (readSystem content n).step f call f') : f'.Positioned content := by
  intro fp' hfp'
  obtain ⟨hnone, -⟩ | ⟨fp, chunk, fp₁, f₁, hcall⟩ := readFrame_cases h
  · rw [hnone] at hfp'
    cases hfp'
  obtain ⟨rfl, hused, hpos⟩ := hf fp hcall.fp_eq
  obtain ⟨-, hcontent₁, -, -, hcase⟩ := readWindow_spec f fp hcall.window
  have hoffset := hf.windowOffset_eq (by omega) hcall.fp_eq
  have hchunk := length_window hcall.window
  rw [hoffset] at hchunk
  obtain ⟨start, stop, hscan, ⟨-, rfl, -⟩ | ⟨s, e, rfl, rfl, -, rfl⟩ | ⟨s, -, -, -, -, rfl⟩⟩ :=
    scanFrame_cases hcall.scan
  · cases hfp'
  · have hstop := (stop_add_six_le (by omega) hscan).2
    have hused₁ : f₁.bytesUsed = fp.pos := by
      obtain ⟨-, rfl⟩ | ⟨hzero, rfl⟩ := hcase
      · exact hused
      · rw [← hoffset, hzero]
        rfl
    have hnext : toInt32 (f₁.bytesUsed + e) = (fp.pos + e : ℕ) := by
      rw [hused₁, toInt32_of_lt (by omega) (by omega)]
      push_cast
      rfl
    cases hfp'
    dsimp only
    rw [hnext, File.content_fseek]
    unfold File.fseek
    rw [if_neg (by omega)]
    exact ⟨hcontent₁, rfl, .inr (by dsimp only; omega)⟩
  · cases hfp'
    exact ⟨hcontent₁, rfl, .inl rfl⟩

theorem positioned_of_run (hn : 5 ≤ n) (hlen : 5 ≤ content.length)
    (hint : content.length < 2 ^ 31) {calls : List (ℕ × ReadResult)}
    (hrun : (readSystem content n).Run calls f) : f.Positioned content := by
  refine hrun.invariant ?_ fun _ _ _ hf hstep => hf.step hn hlen hint hstep
  rintro f ⟨garbage, rfl⟩ fp hfp
  cases hfp
  exact ⟨rfl, rfl, .inl rfl⟩

end Positioned

/-- A reader of an empty file. -/
def IsEmpty (f : H264File n) : Prop := ∀ fp, f.fp = some fp → fp.content = []

/-- On an empty file no call has a window. -/
theorem isEmpty_of_run {f : H264File n} {calls : List (ℕ × ReadResult)}
    (hrun : (readSystem [] n).Run calls f) : f.IsEmpty := by
  refine hrun.invariant ?_ fun f call f' hf hstep fp' hfp' => ?_
  · rintro f ⟨garbage, rfl⟩ fp hfp
    cases hfp
    rfl
  · obtain ⟨hnone, -⟩ | ⟨fp, chunk, fp₁, f₁, hcall⟩ := readFrame_cases hstep
    · rw [hnone] at hfp'
      cases hfp'
    · refine absurd ?_ hcall.ne_nil
      rw [(readWindow_spec f fp hcall.window).1, hf fp hcall.fp_eq, List.drop_nil, List.take_nil]

theorem IsEmpty.windowFits {f : H264File n} (hf : f.IsEmpty) : f.WindowFits := by
  intro fp hfp
  rw [hf fp hfp, List.length_nil, Nat.zero_sub]
  exact .inl (Nat.min_zero n)

/-- **Every call of every run scans inside its window exactly when** the file
is empty, or the file and the buffer have five bytes; and on any file a call
does when its window is not shorter than that. -/
theorem forall_scansInside_iff (content : Bytes) (hn : 1 ≤ n) :
    (∀ calls f, (readSystem content n).Run calls f → (f.ScansInside ↔ f.WindowFits)) ∧
      (content.length < 2 ^ 31 →
        ((∀ calls f, (readSystem content n).Run calls f → f.ScansInside) ↔
          content = [] ∨ 5 ≤ n ∧ 5 ≤ content.length)) := by
  refine ⟨fun _ f _ => f.scansInside_iff, fun hint => ⟨fun h => ?_, ?_⟩⟩
  · -- the first call already has a window that is too short
    have hfirst := (scansInside_iff _).mp
      (h [] (opened content (Block.filled n 0)) (.nil ⟨_, rfl⟩)) _ rfl
    have hstart : windowOffset n { content := content } = 0 := by
      unfold windowOffset
      exact ite_self _
    rw [hstart] at hfirst
    dsimp only at hfirst
    by_cases hne : content = []
    · exact .inl hne
    · have := List.length_pos_iff.mpr hne
      exact .inr (by omega)
  · rintro (rfl | ⟨h5, hlen⟩) calls f hrun
    · exact (scansInside_iff f).mpr (isEmpty_of_run hrun).windowFits
    · exact (scansInside_iff f).mpr ((positioned_of_run h5 hlen hint hrun).windowFits h5 hlen)

/-- Two units are long enough for a buffer of 12 bytes. -/
theorem forall_scansInside_iff_twoUnits : 5 ≤ twoUnits.length ∧
    ∀ calls f, (readSystem twoUnits 12).Run calls f → f.ScansInside := by
  have hlong : 5 ≤ twoUnits.length := by decide
  exact ⟨hlong, ((forall_scansInside_iff twoUnits (by decide)).2 (by decide)).mpr
    (.inr ⟨by decide, hlong⟩)⟩

/-- **A file of three bytes**: its first call searches far beyond them. -/
theorem not_scansInside_threeBytes :
    ¬∀ (content : Bytes) (n : ℕ), 1 ≤ n → ∀ (calls : List (ℕ × ReadResult)) (f : H264File n),
      (readSystem content n).Run calls f → f.ScansInside := by
  intro h
  have hinside := h [0, 0, 1] 12 (by decide) [] (opened [0, 0, 1] (Block.filled 12 0))
    (.nil ⟨_, rfl⟩)
  have hfits := (scansInside_iff _).mp hinside { content := [0, 0, 1] } rfl
  revert hfits
  decide

end H264File
