import RtspServer.Depacketization
import RtspServer.H264File

/-!
# NAL units in the file and NAL units on the wire

An H.264 file is a byte stream: NAL units, each behind a start code
`00 00 01`. `nalUnits` takes a byte stream apart – a unit begins behind a
start code and ends before the next `00 00 00` or `00 00 01` – and no unit
contains a start code.

The demo program sends each frame it reads from a file as it is. What
`readFrame` returns is a segment of the byte stream, start codes included,
while the packetizer takes its argument for a single NAL unit. A receiver
therefore never gets the units of the frame: whatever the packets deliver
still contains a start code (`startCode_of_mem_depacketize`).
-/

/-! ## Taking a byte stream apart -/

/-- The three bytes every start code ends with. -/
def startCode : Bytes := [0, 0, 1]

/-- A unit, if it is not empty. -/
def unitOf : Option Bytes → List Bytes
  | some (b :: bs) => [b :: bs]
  | _ => []

/-- The units of a byte stream. `skip` counts the bytes of a start code still
to be passed over, `cur` is the unit the position is in, if any. -/
def splitUnits : ℕ → Option Bytes → Bytes → List Bytes
  | _, cur, [] => unitOf cur
  | skip + 1, cur, _ :: bs => splitUnits skip cur bs
  | 0, cur, b :: bs =>
    if startCode <+: b :: bs then unitOf cur ++ splitUnits 2 (some []) bs
    else if [0, 0, 0] <+: b :: bs then unitOf cur ++ splitUnits 0 none bs
    else splitUnits 0 (cur.map (· ++ [b])) bs

/-- **The NAL units of a byte stream**, without their start codes. -/
def nalUnits (stream : Bytes) : List Bytes := splitUnits 0 none stream

example : nalUnits [0, 0, 0, 1, 0x67, 0x42, 0, 0, 1, 0x65, 0x88, 7, 0, 0, 1, 0x41]
    = [[0x67, 0x42], [0x65, 0x88, 7], [0x41]] := by decide

/-- No start code begins inside `u` in the stream `u ++ l`. -/
def NoneInside (u l : Bytes) : Prop := ∀ v, v <:+ u → v ≠ [] → ¬startCode <+: v ++ l

theorem NoneInside.not_isInfix {u l : Bytes} (h : NoneInside u l) : ¬startCode <:+: u := by
  intro hin
  obtain ⟨v, hpre, hsuf⟩ := List.infix_iff_prefix_suffix.mp hin
  have hv : v ≠ [] := by
    rintro rfl
    cases List.prefix_nil.mp hpre
  exact h v hsuf hv (hpre.trans (List.prefix_append v l))

/-- A byte at which no start code begins extends the unit. -/
theorem NoneInside.snoc {u bs : Bytes} {b : UInt8} (h : NoneInside u (b :: bs))
    (hb : ¬startCode <+: b :: bs) : NoneInside (u ++ [b]) bs := by
  intro v hv hne hpre
  obtain rfl | ⟨w, rfl, hw⟩ := List.suffix_concat_iff.mp
    (by simpa [List.concat_eq_append] using hv)
  · exact hne rfl
  · rw [List.append_assoc, List.singleton_append] at hpre
    by_cases hw0 : w = []
    · rw [hw0] at hpre
      exact hb hpre
    · exact h w hw hw0 hpre

/-- The units split off a stream contain no start code. -/
theorem not_infix_of_mem_splitUnits (l : Bytes) :
    ∀ (skip : ℕ) (cur : Option Bytes), (∀ u, cur = some u → skip = 0 ∨ u = []) →
      (∀ u, cur = some u → NoneInside u l) → ∀ u ∈ splitUnits skip cur l, ¬startCode <:+: u := by
  have hunit : ∀ {cur : Option Bytes} {l : Bytes},
      (∀ u, cur = some u → NoneInside u l) → ∀ u ∈ unitOf cur, ¬startCode <:+: u := by
    intro cur l hcur u hu
    cases cur with
    | none => cases hu
    | some w =>
      cases w with
      | nil => cases hu
      | cons b bs =>
        obtain rfl := List.mem_singleton.mp hu
        exact (hcur _ rfl).not_isInfix
  have hempty : ∀ l : Bytes, NoneInside [] l := fun l v hv hne =>
    absurd (List.suffix_nil.mp hv) hne
  induction l with
  | nil =>
    intro skip cur _ hcur u hu
    rw [splitUnits] at hu
    exact hunit hcur u hu
  | cons b bs ih =>
    intro skip cur hskip hcur u hu
    cases skip with
    | succ skip =>
      rw [splitUnits] at hu
      have hnil : ∀ u, cur = some u → u = [] := fun u h =>
        (hskip u h).resolve_left (Nat.succ_ne_zero skip)
      exact ih skip cur (fun u h => .inr (hnil u h)) (fun u h => hnil u h ▸ hempty bs) u hu
    | zero =>
      rw [splitUnits] at hu
      split at hu
      · rcases List.mem_append.mp hu with hu | hu
        · exact hunit hcur u hu
        · refine ih 2 (some []) (fun u h => .inr (by cases h; rfl)) (fun u h => ?_) u hu
          cases h
          exact hempty bs
      · rename_i hsc
        split at hu
        · rcases List.mem_append.mp hu with hu | hu
          · exact hunit hcur u hu
          · exact ih 0 none (fun u h => .inl rfl) (fun u h => by cases h) u hu
        · refine ih 0 _ (fun u h => .inl rfl) (fun u h => ?_) u hu
          obtain ⟨w, hw, rfl⟩ := Option.map_eq_some_iff.mp h
          exact (hcur w hw).snoc hsc

/-- **No NAL unit contains a start code.** -/
theorem not_startCode_infix_of_mem_nalUnits {stream u : Bytes} (h : u ∈ nalUnits stream) :
    ¬startCode <:+: u :=
  not_infix_of_mem_splitUnits stream 0 none (fun _ h => by cases h) (fun _ h => by cases h)
    u h

/-- A unit that has begun is split off. -/
theorem splitUnits_ne_nil_of_cons (l : Bytes) (b : UInt8) (u : Bytes) :
    splitUnits 0 (some (b :: u)) l ≠ [] := by
  induction l generalizing u with
  | nil => simp [splitUnits, unitOf]
  | cons c cs ih =>
    rw [splitUnits]
    split
    · simp [unitOf]
    · split
      · simp [unitOf]
      · exact ih (u ++ [c])

/-- A start code with a header byte behind it begins a unit, wherever in the
stream it stands. -/
theorem splitUnits_ne_nil {h : UInt8} (hh : h ≠ 0) (post pre : Bytes) :
    ∀ (skip : ℕ) (cur : Option Bytes), skip ≤ pre.length →
      splitUnits skip cur (pre ++ 0 :: 0 :: 1 :: h :: post) ≠ [] := by
  induction pre with
  | nil =>
    intro skip cur hskip
    obtain rfl : skip = 0 := by simpa using hskip
    have hsc : startCode <+: 0 :: 0 :: 1 :: h :: post := ⟨h :: post, rfl⟩
    have hno : ¬startCode <+: h :: post := fun ⟨t, ht⟩ => hh (by cases ht; rfl)
    have hzero : ¬[0, 0, 0] <+: h :: post := fun ⟨t, ht⟩ => hh (by cases ht; rfl)
    rw [List.nil_append, splitUnits, if_pos hsc, splitUnits, splitUnits, splitUnits,
      if_neg hno, if_neg hzero]
    exact fun hnil => splitUnits_ne_nil_of_cons post h []
      (List.append_eq_nil_iff.mp hnil).2
  | cons b bs ih =>
    intro skip cur hskip
    rw [List.cons_append]
    cases skip with
    | succ skip =>
      rw [splitUnits]
      exact ih skip cur (by simpa using hskip)
    | zero =>
      rw [splitUnits]
      split
      · rename_i hsc
        -- two start codes do not overlap
        have hlen : 2 ≤ bs.length := by
          obtain ⟨t, ht⟩ := hsc
          match bs, ht with
          | [], ht => cases ht
          | [_], ht => cases ht
          | _ :: _ :: _, _ => simp
        exact fun hnil => ih 2 (some []) hlen (List.append_eq_nil_iff.mp hnil).2
      · split
        · exact fun hnil => ih 0 none (Nat.zero_le _) (List.append_eq_nil_iff.mp hnil).2
        · exact ih 0 _ (Nat.zero_le _)

/-! ## What the packets of a segment deliver -/

/-- The NAL unit header byte a payload carries. -/
def carriedHeader (payload : Bytes) : UInt8 :=
  if nalType (payload.headD 0) = 28 then rebuiltHeader (fuIndicator payload) (fuHeader payload)
  else payload.headD 0

/-- **What the packets of a frame should deliver**: the NAL units of the
frame, one after the other, each packet with the header byte of a unit of
the file. -/
structure DeliversUnits (file frame : Bytes) (pkts : List RtpPacket) : Prop where
  units_eq : depacketize (pkts.map RtpPacket.payload) = nalUnits frame
  header_mem : ∀ p ∈ pkts, some (carriedHeader p.payload) ∈ (nalUnits file).map List.head?

/-- **Whatever the packets of a frame with a start code deliver contains a
start code.** A frame in fragments is delivered whole; a frame in one packet
is delivered whole, or dropped for its type, or, when its first byte looks
like an FU indicator, delivered without the two bytes of an FU-A prefix. -/
theorem startCode_of_mem_depacketize {frame : AVFrame} {pkts : List RtpPacket}
    (h : H264Source.PacketsOf frame pkts) (hsc : startCode <:+: frame.buffer) :
    ∀ u ∈ depacketize (pkts.map RtpPacket.payload), startCode <:+: u := by
  intro u hu
  cases h with
  | fragmented _ hbuf hfrag =>
    rw [hfrag.depacketize_eq, List.mem_singleton] at hu
    rwa [hu, ← hbuf]
  | @single pkt _ hemit =>
    rw [List.map_singleton, hemit.payload_eq] at hu
    revert hu hsc
    cases frame.buffer with
    | nil => intro _ hu; cases hu
    | cons ind rest =>
      intro hsc hu
      simp only [depacketize, List.foldl_cons, List.foldl_nil, Receiver.receive] at hu
      by_cases h28 : nalType ind = 28
      · rw [if_pos h28] at hu
        cases rest with
        | nil => cases hu
        | cons hdr c =>
          -- both prefix bytes are non-zero, so the start code is behind them
          have hunit : u = rebuiltHeader ind hdr :: c ∧ startBit hdr = true := by
            by_cases hs : startBit hdr = true
            · simp only [if_pos hs] at hu
              split at hu
              · exact ⟨by simpa using hu, hs⟩
              · cases hu
            · simp only [if_neg hs, Option.map_none] at hu
              split at hu <;> cases hu
          have hind : ind ≠ 0 := by
            rintro rfl
            exact absurd h28 (by decide)
          have hhdr : hdr ≠ 0 := by
            rintro rfl
            exact absurd hunit.2 (by decide)
          have hc : startCode <:+: c := by
            rcases List.infix_cons_iff.mp hsc with ⟨t, ht⟩ | hsc
            · cases ht
              exact absurd rfl hind
            · rcases List.infix_cons_iff.mp hsc with ⟨t, ht⟩ | hsc
              · cases ht
                exact absurd rfl hhdr
              · exact hsc
          rw [hunit.1]
          exact hc.trans (List.suffix_cons _ _).isInfix
      · rw [if_neg h28] at hu
        split at hu
        · obtain rfl : u = ind :: rest := by simpa using hu
          exact hsc
        · cases hu

/-- **A frame with a start code and a header byte is never delivered as the
units it contains.** -/
theorem depacketize_ne_nalUnits {frame : AVFrame} {pkts : List RtpPacket}
    (h : H264Source.PacketsOf frame pkts) {pre post : Bytes} {hdr : UInt8} (hhdr : hdr ≠ 0)
    (hbuf : frame.buffer = pre ++ 0 :: 0 :: 1 :: hdr :: post) :
    depacketize (pkts.map RtpPacket.payload) ≠ nalUnits frame.buffer := by
  intro heq
  have hne : nalUnits frame.buffer ≠ [] := by
    rw [hbuf]
    exact splitUnits_ne_nil hhdr post pre 0 none (Nat.zero_le _)
  obtain ⟨u, hu⟩ := List.exists_mem_of_ne_nil _ hne
  have hsc : startCode <:+: frame.buffer :=
    ⟨pre, hdr :: post, by rw [hbuf, List.append_assoc]; rfl⟩
  exact not_startCode_infix_of_mem_nalUnits hu
    (startCode_of_mem_depacketize h hsc u (heq ▸ hu))

/-! ## Frames read from a file -/

namespace H264File

variable {n : ℕ}

/-- `sendFrameThread` copies a frame it has read into an `AVFrame`. -/
def sentFrame (now : UInt32) (r : ReadResult) : AVFrame :=
  { buffer := r.frame.take r.ret.toNat, size := .ofNat r.ret.toNat, timestamp := now }

/-- Four bytes that stand one after another in a list. -/
theorem take_eq_append_four {l : Bytes} {p k : ℕ} {a b c d : UInt8} (hk : p + 4 ≤ k)
    (ha : l[p]? = some a) (hb : l[p + 1]? = some b) (hc : l[p + 2]? = some c)
    (hd : l[p + 3]? = some d) :
    ∃ pre post, l.take k = pre ++ a :: b :: c :: d :: post := by
  have hdrop : ∀ {q : ℕ} {x : UInt8}, l[q]? = some x → l.drop q = x :: l.drop (q + 1) := by
    intro q x hx
    obtain ⟨hq, rfl⟩ := List.getElem?_eq_some_iff.mp hx
    exact List.drop_eq_getElem_cons hq
  refine ⟨l.take p, (l.drop (p + 4)).take (k - (p + 4)), ?_⟩
  conv_lhs => rw [← Nat.add_sub_cancel' hk, List.take_add]
  rw [List.take_add (i := p) (j := 4), List.append_assoc, hdrop ha, hdrop hb, hdrop hc,
    hdrop hd]
  rfl

/-- The start code of a first slice, with the header byte behind it. -/
theorem firstSlice_bytes {buffer : Block n} {s sc : ℕ}
    (hsc : startCodeAt (bufferAt buffer) s = .ok (some sc))
    (htest : isFirstSlice (bufferAt buffer) (s + sc) = .ok true) :
    (sc = 3 ∨ sc = 4) ∧ ∃ h, h ≠ 0 ∧ buffer.toList[s + sc - 3]? = some 0
      ∧ buffer.toList[s + sc - 3 + 1]? = some 0 ∧ buffer.toList[s + sc - 3 + 2]? = some 1
      ∧ buffer.toList[s + sc - 3 + 3]? = some h := by
  obtain ⟨h, hh, hne⟩ : ∃ h, bufferAt buffer (s + sc) = .ok h ∧ h ≠ 0 := by
    rw [isFirstSlice, Except.bind_eq_ok_iff] at htest
    obtain ⟨h, hh, htest⟩ := htest
    refine ⟨h, hh, ?_⟩
    rintro rfl
    rw [if_neg (by decide)] at htest
    cases htest
  have hread : ∀ {i : ℕ} {b : UInt8}, bufferAt buffer i = .ok b →
      buffer.toList[i]? = some b := fun h => bufferAt_eq_getElem?.mp h
  obtain ⟨rfl, hm⟩ | ⟨rfl, hm⟩ := startCodeAt_eq_some hsc
  · exact ⟨.inl rfl, h, hne, hread (get_of_matchesAt hm 0 0 rfl),
      hread (get_of_matchesAt hm 1 0 rfl), hread (get_of_matchesAt hm 2 1 rfl), hread hh⟩
  · exact ⟨.inr rfl, h, hne, hread (get_of_matchesAt hm 1 0 rfl),
      hread (get_of_matchesAt hm 2 0 rfl), hread (get_of_matchesAt hm 3 1 rfl), hread hh⟩

/-- The buffer holds a zero byte where a start code begins. -/
theorem bufferAt_startCode {buffer : Block n} {e sc : ℕ}
    (h : startCodeAt (bufferAt buffer) e = .ok (some sc)) : bufferAt buffer e = .ok 0 := by
  obtain ⟨-, hm⟩ | ⟨-, hm⟩ := startCodeAt_eq_some h <;> exact get_of_matchesAt hm 0 0 rfl

/-- A search that ran to its bound in a buffer of less than `2 ^ 31` bytes
had a bound inside the window. -/
theorem sizeSub_of_search_none {buffer : Block n} (hn : n < 2 ^ 31) {bytesRead s : ℕ}
    {test : ℕ → Except Fault Bool} (hs : s < n) (hlen : bytesRead ≤ n)
    (hlt : s < sizeSub bytesRead 5)
    (h : search (bufferAt buffer) test (sizeSub bytesRead 5 - (s + 4)) (s + 4) = .ok none) :
    s + 5 < bytesRead := by
  by_cases h5 : 5 ≤ bytesRead
  · have : sizeSub bytesRead 5 = bytesRead - 5 := by unfold sizeSub; omega
    omega
  · -- the bound has wrapped, and the search has left the buffer
    have hbig : 2 ^ 64 - 5 ≤ sizeSub bytesRead 5 := by unfold sizeSub; omega
    obtain ⟨b, hb⟩ := search_eq_none h (n + 4) (by omega) (by omega)
    have := lt_of_bufferAt hb
    omega

/-- **Every frame `readFrame` returns contains the start code of a first
slice and the header byte behind it.** -/
theorem frame_contains_startCode (hn : n < 2 ^ 31) {f f' : H264File n} {m : ℕ} (hm : n ≤ m)
    {r : ReadResult} (h : f.readFrame m = .ok (r, f')) (hret : 0 < r.ret) :
    r.frame.length = r.ret.toNat ∧ r.frame.length < 2 ^ 31
      ∧ ∃ pre post hdr, hdr ≠ 0 ∧ r.frame = pre ++ 0 :: 0 :: 1 :: hdr :: post := by
  obtain ⟨-, rfl⟩ | ⟨fp, chunk, fp₁, f₁, hcall⟩ := readFrame_cases h
  · cases hret
  have hlen : chunk.length ≤ n := by
    have := length_readWindow_le f fp
    rwa [hcall.window] at this
  generalize hbuf : filled f₁.buffer chunk = buffer at hcall
  have hcall' := hcall.scan
  rw [hbuf] at hcall'
  have hblen := buffer.toList_length
  -- a frame of `k` bytes that holds the start code found at `s`
  have hframe : ∀ {k s sc : ℕ} {flag : Bool}, k ≤ n →
      startCodeAt (bufferAt buffer) s = .ok (some sc) →
      isFirstSlice (bufferAt buffer) (s + sc) = .ok true → s + sc + 1 ≤ k →
      r = ⟨toInt32 (min k m : ℕ), some flag, buffer.toList.take (min k m)⟩ →
      r.frame.length = r.ret.toNat ∧ r.frame.length < 2 ^ 31
        ∧ ∃ pre post hdr, hdr ≠ 0 ∧ r.frame = pre ++ 0 :: 0 :: 1 :: hdr :: post := by
    intro k s sc flag hk hsc htest hend hr
    obtain ⟨hsc34, hdr, hne, h0, h1, h2, h3⟩ := firstSlice_bytes hsc htest
    obtain ⟨pre, post, htake⟩ := take_eq_append_four (l := buffer.toList) (k := k)
      (by omega) h0 h1 h2 h3
    have hlenk : (buffer.toList.take k).length = k := by
      rw [List.length_take]
      omega
    rw [hr, Nat.min_eq_left (by omega)]
    refine ⟨?_, by show (buffer.toList.take k).length < _; omega, pre, post, hdr, hne, htake⟩
    show (buffer.toList.take k).length = _
    rw [hlenk, toInt32_of_lt (by omega) (by omega), Int.toNat_natCast]
  obtain ⟨start, stop, hscan, ⟨rfl, -⟩ | ⟨s, e, rfl, rfl, hr, -⟩ | ⟨s, rfl, rfl, -, hr, -⟩⟩ :=
    scanFrame_cases hcall'
  · cases hret
  · obtain ⟨hfirst, hsecond⟩ := scanLoops_eq_ok hscan
    obtain ⟨-, -, sc, hsc, htest⟩ := search_eq_some hfirst
    obtain ⟨hle, -, sc', hsc', -⟩ := search_eq_some hsecond
    have hle' : s + 4 ≤ e := hle
    refine hframe (stop_lt hscan).le hsc htest ?_ hr
    -- the header byte is not zero, so the frame does not end before it
    obtain ⟨hsc34, hdr, hne, -, -, -, hhdr⟩ := firstSlice_bytes hsc htest
    have hzero := bufferAt_eq_getElem?.mp (bufferAt_startCode hsc')
    by_contra hend
    obtain ⟨rfl, rfl⟩ : sc = 4 ∧ e = s + 4 := by omega
    rw [show s + 4 - 3 + 3 = s + 4 by omega, hzero] at hhdr
    exact hne (Option.some.inj hhdr).symm
  · obtain ⟨hfirst, hsecond⟩ := scanLoops_eq_ok hscan
    obtain ⟨-, hlt, sc, hsc, htest⟩ := search_eq_some hfirst
    obtain ⟨b, hb⟩ := get_of_startCodeAt hsc
    have hend := sizeSub_of_search_none hn (lt_of_bufferAt hb) hlen
      (by rwa [Nat.zero_add] at hlt) hsecond
    refine hframe hlen hsc htest ?_ hr
    obtain ⟨rfl, -⟩ | ⟨rfl, -⟩ := startCodeAt_eq_some hsc <;> omega

/-- The packets of a frame that was read are not an encoding of its units. -/
theorem not_deliversUnits_of_readFrame (hn : n < 2 ^ 31) {f f' : H264File n} {m : ℕ}
    (hm : n ≤ m) {r : ReadResult} (h : f.readFrame m = .ok (r, f')) (hret : 0 < r.ret)
    (content : Bytes) (now now' : UInt32) (heap : ℕ → Block 1600) (ch : MediaChannelId) :
    ∃ pkts, H264Source.handleFrame now' heap (some H264Source.collect) ch (sentFrame now r) []
        = .ok (true, pkts) ∧ ¬DeliversUnits content r.frame pkts := by
  obtain ⟨hlen, hlt, pre, post, hdr, hhdr, hbuf⟩ := frame_contains_startCode hn hm h hret
  have htake : r.frame.take r.ret.toNat = r.frame := List.take_of_length_le hlen.le
  have hsize : (sentFrame now r).size.toNat = r.frame.length := by
    show (UInt32.ofNat r.ret.toNat).toNat = _
    rw [← hlen, UInt32.toNat_ofNat_of_lt' (by simp only [UInt32.size]; omega)]
  obtain ⟨pkts, hpkts, hfeed⟩ := H264Source.handleFrame_eq_feed now' heap (sentFrame now r)
    (by rw [hsize]; exact congrArg List.length htake) (by omega)
  refine ⟨pkts, by rw [hfeed, H264Source.feed_collect]; rfl, fun hdel => ?_⟩
  have hbuf' : (H264Source.stamped now' (sentFrame now r)).buffer = r.frame := by
    rw [H264Source.buffer_stamped]
    exact htake
  refine depacketize_ne_nalUnits hpkts hhdr (hbuf'.trans hbuf) ?_
  rw [hbuf']
  exact hdel.units_eq

/-- **No frame read from a file reaches a receiver as its NAL units.** For
every file, every buffer size and every run of calls, pushing a returned
frame emits packets, but what they deliver is not the sequence of units of
that frame. -/
theorem sentFrame_not_delivered (content : Bytes) (n m : ℕ) (hn : n < 2 ^ 31) (hm : n ≤ m)
    {calls : List ReadResult} {r : ReadResult} {s : H264File n × Bytes}
    (hrun : (passSystem content n m).Run (calls ++ [r]) s) (hret : 0 < r.ret)
    (now now' : UInt32) (heap : ℕ → Block 1600) (ch : MediaChannelId) :
    ∃ pkts, H264Source.handleFrame now' heap (some H264Source.collect) ch (sentFrame now r) []
        = .ok (true, pkts) ∧ ¬DeliversUnits content r.frame pkts := by
  obtain ⟨s₀, -, hstep, -⟩ := hrun.of_snoc
  exact not_deliversUnits_of_readFrame hn hm hstep hret content now now' heap ch

/-- The first call on `twoUnits`. -/
theorem run_twoUnits : (passSystem twoUnits 12 12).Run ([] ++ [⟨5, some false, twoUnits.take 5⟩])
    (afterFirst twoUnits ⟨twoUnits, rfl⟩, twoUnits.take 5) := by
  refine .snoc (.nil ⟨Block.filled 12 0, rfl⟩) ⟨?_, ?_⟩
  all_goals decide +kernel

theorem sentFrame_not_delivered_twoUnits :
    ∃ pkts, H264Source.handleFrame 1 (fun _ => Block.filled 1600 0) (some H264Source.collect)
        .channel0 (sentFrame 1 ⟨5, some false, twoUnits.take 5⟩) [] = .ok (true, pkts)
      ∧ ¬DeliversUnits twoUnits (twoUnits.take 5) pkts :=
  sentFrame_not_delivered twoUnits 12 12 (by decide) le_rfl run_twoUnits (by decide) 1 1 _ _

/-- The first frame of `twoUnits`, `00 00 01 65 88`, holds the unit `65 88`,
but its one packet starts with a zero byte and delivers nothing. -/
theorem twoUnits_not_delivered :
    ¬∀ (content : Bytes) (n m : ℕ), n < 2 ^ 31 → n ≤ m →
      ∀ (calls : List ReadResult) (r : ReadResult) (s : H264File n × Bytes),
        (passSystem content n m).Run (calls ++ [r]) s → 0 < r.ret →
        ∀ (now now' : UInt32) (heap : ℕ → Block 1600) (ch : MediaChannelId)
          (pkts : List RtpPacket),
          H264Source.handleFrame now' heap (some H264Source.collect) ch (sentFrame now r) []
            = .ok (true, pkts) → DeliversUnits content r.frame pkts := by
  intro h
  obtain ⟨s₀, -, hstep, -⟩ := run_twoUnits.of_snoc
  obtain ⟨pkts, hpkts, hnot⟩ := not_deliversUnits_of_readFrame (by decide) le_rfl hstep
    (by decide) twoUnits 1 1 (fun _ => Block.filled 1600 0) .channel0
  exact hnot (h twoUnits 12 12 (by decide) le_rfl [] _ _ run_twoUnits (by decide) 1 1 _ _
    pkts hpkts)

end H264File
