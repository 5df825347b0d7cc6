import RtspServer.LineArrivals
import RtspServer.RejectedRequest
import RtspServer.TransportPlace

/-!
# Cuts between the header lines

Where a request may be cut, said of the cuts. A read brings some header lines to their
end and may begin another one, and the parser is given the lines that ended in the read,
and nothing that came before (`Request.arrivals`). So a request comes to harm when the
lines that belong together end in different reads.

`Request.CutsWell` says which cuts do no harm. The first read whose lines satisfy the
method, when a `CSeq` has come, has to be one whose lines say what the whole request says
(`Request.DispatchesWell.number`, `Request.DispatchesWell.setup`): the request is dispatched then.
And the lines that are still to come must not come too fast: the parser takes each for a
request line and drops one for each read (`Request.DispatchesWell.drained`).

`Request.reassembled_iff` is that these cuts do no harm to any request, and that no others
are harmless to a request whose header lines fit the buffer, do not begin like a frame and
name `RTP/AVP` in one line at most. Outside these a harmful cut may be made good by
accident: by a line that says the same once more, or by a buffer that is emptied because
it has grown too long.
-/

open Scanf RtspRequest RtspReader

namespace Request

/-! ## The lines of a read -/

/-- The header lines and the blank line. -/
def blockLines (r : Request) : List Bytes := r.headers.map HeaderLine.line ++ [[]]

/-- What the reads have behind the first `n` bytes, from the read on that gets there. -/
def piecesAfter : ℕ → List Bytes → List Bytes
  | _, [] => []
  | n, c :: cs => if c.length < n then piecesAfter (n - c.length) cs else c.drop n :: cs

/-- **The header lines that end in each read**, the blank line among them, from the read
on that ends the request line; and how many bytes of the next line the read has. -/
def arrivals (r : Request) (cs : List Bytes) : List (List Bytes × ℕ) :=
  Search.arrivals crlf r.blockLines 0 (piecesAfter (r.requestLine.length + 2) cs)

/-- **The lines of one read satisfy the method**: a `CSeq` has come with them or before,
and what else the method asks for is in these lines. -/
def CompletedBy (r : Request) (before lines : List Bytes) : Prop :=
  lines ≠ [] ∧ (∃ l ∈ before ++ lines, ascii "CSeq" <:+: l) ∧
    completes r.method (Search.text crlf lines) = true

/-- **The number of the `CSeq` is complete** in a text: behind the first `CSeq` there is
a colon, and behind the colon something that is not blank. -/
def ShowsNumber (text : Bytes) : Prop :=
  ∃ k ∈ Search.find (ascii "CSeq") text, ∃ tail ∈ skipPast 0x3a (text.drop k),
    ∃ b ∈ tail, isSpace b = false

/-- The read with the first `CSeq` has its number, too. A number that is cut off is read
as 0, which does no harm when the whole request has 0 there. -/
def NumberComes (r : Request) (reads : List (List Bytes × ℕ)) : Prop :=
  (∃ e x e', reads = e ++ x :: e' ∧ (∀ l ∈ Search.arrived e, ¬ ascii "CSeq" <:+: l) ∧
    ShowsNumber (Search.text crlf x.1)) ∨ cseqOf r.headerText = some 0

/-- **A read dispatches the request as it should be**: `early` are the reads before it
and `late` those behind it. The fields follow what the source does with the header lines
of a read: it tests and reads them without those of other reads, keeps only the `CSeq`,
and lets the lines that come after the dispatch go as if each were a request line, one
in a read. -/
structure DispatchesWell (r : Request) (early : List (List Bytes × ℕ)) (call : List Bytes × ℕ)
    (late : List (List Bytes × ℕ)) : Prop where
  /-- No read before has lines that satisfy the method. -/
  first : ∀ e x e', early = e ++ x :: e' → ¬ r.CompletedBy (Search.arrived e) x.1
  /-- This one has. -/
  done : r.CompletedBy (Search.arrived early) call.1
  /-- The `CSeq` came with its number. -/
  number : r.NumberComes (early ++ [call])
  /-- In a SETUP no line that came before, or is to come, has a part in the transport. -/
  setup : r.method = .setup → TransportOf (Search.text crlf (Search.arrived early))
    (Search.text crlf call.1) (Search.text crlf (Search.arrived late))
  /-- No read behind the first finds a line in front that looks like a frame. -/
  front : ∀ x ∈ (early ++ [call]).tail, ∀ l ∈ x.1.head?, l.head? ≠ some 0x24
  /-- No line that has begun is so long that it is thrown away. -/
  kept : ∀ x ∈ early, x.2 ≤ maxRtspMessageSize
  /-- The lines that come later can be read as request lines without harm: their words
  fit the arrays of the parser, and none looks like a frame. -/
  drops : ∀ l ∈ Search.arrived late, RequestLine.Fits l ∧ l.head? ≠ some 0x24
  /-- They fit the buffer. -/
  keeps : (Search.text crlf (Search.arrived late)).length ≤ maxRtspMessageSize
  /-- **They do not come faster than they are dropped**: to the end of the request there
  are from every read on as many reads as lines, or more. -/
  drained : ∀ k, (Search.arrived (late.drop k)).length ≤ (late.drop k).length

/-- **The cuts that do no harm.** The request is one that is answered when it comes in
one read, and the reads bring its header lines such that one read dispatches it as it
should be. -/
structure CutsWell (r : Request) (cs : List Bytes) : Prop where
  accepted : r.Accepted
  completing : Completing r.method none r.headerText
  arrives : ∃ early call late, r.arrivals cs = early ++ call :: late ∧
    r.DispatchesWell early call late

/-- **A request that leaves nothing to accident**: its header lines fit the buffer, none
begins like a frame, and in a SETUP one line at most names `RTP/AVP`. In others what was
lost with one read may be made good by another line, or by the emptying of the buffer. -/
structure Plain (r : Request) : Prop where
  short : (r.headerText ++ crlf).length ≤ maxRtspMessageSize
  front : ∀ l ∈ r.blockLines, l.head? ≠ some 0x24
  once : r.method = .setup →
    (r.blockLines.filter fun l => ascii "RTP/AVP" <:+: l).length ≤ 1

variable {r : Request}

/-! ## The text of the lines -/

theorem text_blockLines (r : Request) : Search.text crlf r.blockLines = r.headerText ++ crlf := by
  unfold blockLines headerText Search.text
  rw [List.flatMap_append, List.flatMap_map]
  rfl

/-- The lines are header lines, or blank. -/
theorem isHeader_of_mem {l : Bytes} (hl : l ∈ r.blockLines) : IsHeader l ∨ l = [] := by
  rcases List.mem_append.mp hl with hl | hl
  · obtain ⟨h, -, rfl⟩ := List.mem_map.mp hl
    refine .inl ⟨h.name, h.value, ?_, h.isToken_name.isWord, h.colon_notMem, h.isLine_value⟩
    rw [HeaderLine.line, List.append_assoc]
    rfl
  · exact .inr (List.mem_singleton.mp hl)

theorem isLine_of_mem {l : Bytes} (hl : l ∈ r.blockLines) : IsLine l := by
  rcases isHeader_of_mem hl with h | rfl
  · exact h.isLine
  · exact fun b hb => absurd hb List.not_mem_nil

theorem nul_notMem_of_mem {l : Bytes} (hl : l ∈ r.blockLines) : 0 ∉ l := by
  rcases List.mem_append.mp hl with hl | hl
  · obtain ⟨h, -, rfl⟩ := List.mem_map.mp hl
    have hname := h.isToken_name.nul_notMem
    have hvalue := h.nul_notMem
    simp [HeaderLine.line, hname, hvalue]
  · rw [List.mem_singleton.mp hl]
    exact List.not_mem_nil

theorem nul_notMem_text {ls : List Bytes} (h : ∀ l ∈ ls, 0 ∉ l) : 0 ∉ Search.text crlf ls := by
  intro hmem
  obtain ⟨l, hl, hin⟩ := List.mem_flatMap.mp hmem
  rcases List.mem_append.mp hin with hin | hin
  · exact h l hl hin
  · exact absurd hin (by decide)

/-- Lines end in a line end. -/
theorem exists_text_eq {ls : List Bytes} (h : ls ≠ []) :
    ∃ text, Search.text crlf ls = text ++ crlf := by
  obtain ⟨front, l, rfl⟩ := (List.eq_nil_or_concat' ls).resolve_left h
  exact ⟨Search.text crlf front ++ l, by
    rw [Search.text_append, Search.text_cons, Search.text_nil, List.append_nil, List.append_assoc]⟩

/-- What has come of a line that has not ended has no line end. -/
theorem not_crlf_carried {ls : List Bytes} {k : ℕ} {cs : List Bytes}
    (h : Search.Carried crlf ls k cs) (hlines : ∀ l ∈ ls, IsLine l) :
    ¬ crlf <:+: (Search.text crlf ls).take k := by
  cases ls with
  | nil =>
    rw [Search.text_nil, List.take_nil]
    decide
  | cons l ls =>
    have hshort := h.short l ls rfl
    rw [List.length_append] at hshort
    have hprefix : (Search.text crlf (l :: ls)).take k <+: l ++ [0x0d] := by
      refine List.prefix_of_prefix_length_le (List.take_prefix _ _)
        ⟨0x0a :: Search.text crlf ls, by simp [crlf]⟩ ?_
      rw [List.length_take, List.length_append, List.length_singleton]
      have hcrlf : crlf.length = 2 := rfl
      omega
    rintro ⟨before, after, hcut⟩
    have hmem : (0x0a : UInt8) ∈ l ++ [0x0d] :=
      hprefix.subset (hcut ▸ by simp [crlf])
    rcases List.mem_append.mp hmem with hmem | hmem
    · exact (hlines l List.mem_cons_self _ hmem).2 rfl
    · cases List.mem_singleton.mp hmem

/-- A text begins like its first line. -/
theorem head_of_begins {ls : List Bytes} {bs : Bytes} (hbs : bs <+: Search.text crlf ls)
    (h : ∀ l ∈ ls.head?, l.head? ≠ some 0x24) : bs.head? ≠ some 0x24 := by
  intro hhead
  obtain ⟨rest, hrest⟩ := hbs
  have htext : (Search.text crlf ls).head? = some 0x24 := by
    rw [← hrest, List.head?_append, hhead]
    rfl
  cases ls with
  | nil => cases htext
  | cons l ls =>
    refine h l rfl ?_
    cases l with
    | nil => exact absurd (Option.some.inj htext) (by decide)
    | cons b l => exact htext

/-! ## The lines that come too late -/

/-- A line without a method's name in front is no request line, if its words fit. -/
theorem noRequestLine_iff {l : Bytes} (hl : IsHeader l ∨ l = []) :
    NoRequestLine l ↔ RequestLine.Fits l := by
  have hmethod : Method.ofName (RequestLine.methodWord l) = .none := by
    rcases hl with hl | rfl
    · by_contra hmethod
      exact RequestLine.colon_notMem_of_ofName hmethod (RequestLine.colon_mem_methodWord hl)
    · decide
  constructor
  · intro hno
    obtain ⟨q, hq⟩ := hno ⟨.none, .channel0, .rtpOverTcp, fun _ => none, fun _ => none,
      .parseRequestLine⟩
    rw [RequestLine.parseRequestLine_eq] at hq
    by_contra hfits
    rw [if_neg hfits] at hq
    cases hq
  · intro hfits p
    rcases RequestLine.parseRequestLine_of_ofName hmethod p with ⟨e, he⟩ | ⟨q, hq, -⟩
    · rw [RequestLine.parseRequestLine_eq, if_pos hfits] at he
      cases he
    · exact ⟨q, hq⟩

theorem trim_of_le {bs : Bytes} (h : bs.length ≤ maxRtspMessageSize) : trim bs = bs :=
  if_neg (Nat.not_lt.mpr h)

/-- A read drops the first line there is. -/
theorem drains_line {l buf c rest : Bytes} {cs : List Bytes} (hl : IsHeader l ∨ l = [])
    (hbuf : buf ++ c = l ++ crlf ++ rest) (hhead : (buf ++ c).head? ≠ some 0x24)
    (hlen : rest.length ≤ maxRtspMessageSize) :
    Drains buf (c :: cs) ↔ RequestLine.Fits l ∧ Drains rest cs := by
  have hline : IsLine l := by
    rcases hl with h | rfl
    · exact h.isLine
    · exact fun b hb => absurd hb List.not_mem_nil
  have hfind : Buffer.findCRLF (buf ++ c) = some l.length := by
    rw [hbuf]
    exact Buffer.findCRLF_line hline rest
  have htake : (buf ++ c).take l.length = l := by
    rw [hbuf, List.append_assoc, List.take_left]
  have hdrop : (buf ++ c).drop (l.length + 2) = rest := by
    rw [hbuf, show l.length + 2 = (l ++ crlf).length by rw [List.length_append]; rfl,
      List.drop_left]
  rw [drains_line_iff hfind hhead, htake, hdrop, trim_of_le hlen, noRequestLine_iff hl]

/-- Without a read to come there must be nothing left. -/
theorem drains_nil_iff {queue : List Bytes} : Drains (Search.text crlf queue) [] ↔ queue = [] := by
  constructor
  · intro h
    generalize hbuf : Search.text crlf queue = buf at h
    cases h
    cases queue with
    | nil => rfl
    | cons l queue =>
      have hlength := congrArg List.length hbuf
      simp only [Search.text_cons, crlf, List.length_append, List.length_cons,
        List.length_nil] at hlength
      omega
  · rintro rfl
    exact .done

/-- **When the lines that are left are dropped.** Each read drops one line of the `queue`,
to which the lines that end in it are added. The induction is on the reads. -/
theorem drains_iff {queue ls : List Bytes} {k : ℕ} {cs : List Bytes}
    (hcs : Search.Carried crlf ls k cs) (hlines : ∀ l ∈ queue ++ ls, IsHeader l ∨ l = [])
    (hhead : ∀ l ∈ queue ++ ls, l.head? ≠ some 0x24)
    (hlen : (Search.text crlf (queue ++ ls)).length ≤ maxRtspMessageSize) :
    Drains (Search.text crlf queue ++ (Search.text crlf ls).take k) cs ↔
      (∀ l ∈ queue ++ ls, RequestLine.Fits l) ∧
      Search.Paced queue.length (Search.arrivals crlf ls k cs) := by
  induction cs generalizing queue ls k with
  | nil =>
    have hls : ls = [] := hcs.arrived_arrivals.symm
    subst hls
    rw [Search.arrivals, Search.paced_nil, List.length_eq_zero_iff, Search.text_nil,
      List.take_nil, List.append_nil, drains_nil_iff]
    refine (and_iff_right_of_imp ?_).symm
    rintro rfl l hl
    cases hl
  | cons c cs ih =>
    obtain ⟨hbytes, hnext⟩ := hcs.step
    rw [Search.arrivals, Search.paced_cons]
    generalize Search.ended crlf ls (k + c.length) = m at hbytes hnext ⊢
    generalize k + c.length - (Search.text crlf (ls.take m)).length = k' at hbytes hnext ⊢
    have hsplit : queue ++ ls = (queue ++ ls.take m) ++ ls.drop m := by
      rw [List.append_assoc, List.take_append_drop]
    rw [hsplit] at hlines hhead hlen ⊢
    have hbuf : Search.text crlf queue ++ (Search.text crlf ls).take k ++ c
        = Search.text crlf (queue ++ ls.take m) ++ (Search.text crlf (ls.drop m)).take k' := by
      rw [List.append_assoc, hbytes, ← List.append_assoc, ← Search.text_append]
    have hprefix : Search.text crlf (queue ++ ls.take m) ++ (Search.text crlf (ls.drop m)).take k'
        <+: Search.text crlf ((queue ++ ls.take m) ++ ls.drop m) := by
      rw [Search.text_append (queue ++ ls.take m)]
      exact (List.prefix_append_right_inj _).mpr (List.take_prefix _ _)
    have hfront : (Search.text crlf queue ++ (Search.text crlf ls).take k ++ c).head?
        ≠ some 0x24 := by
      rw [hbuf]
      exact head_of_begins hprefix fun l hl => hhead l (List.mem_of_mem_head? hl)
    have hlong := hprefix.length_le.trans hlen
    have hcount : queue.length + (ls.take m).length = (queue ++ ls.take m).length :=
      List.length_append.symm
    dsimp only
    rw [hcount]
    generalize queue ++ ls.take m = queue' at hlines hhead hlen hbuf hlong ⊢
    cases queue' with
    | nil =>
      -- no line has ended, and none is left
      rw [Search.text_nil, List.nil_append] at hbuf hlong
      rw [List.nil_append] at hlines hhead hlen
      have hisLine : ∀ l ∈ ls.drop m, IsLine l := by
        intro l hl
        rcases hlines l hl with h | rfl
        · exact h.isLine
        · exact fun b hb => absurd hb List.not_mem_nil
      have hnone : Buffer.findCRLF (Search.text crlf queue ++ (Search.text crlf ls).take k ++ c)
          = none := by
        rw [hbuf, Buffer.findCRLF_eq_none_iff]
        exact not_crlf_carried hnext hisLine
      rw [drains_noLine_iff hnone hfront, hbuf, trim_of_le hlong]
      exact @ih [] (ls.drop m) k' hnext hlines hhead hlen
    | cons l rest =>
      obtain ⟨hl, hlines⟩ := List.forall_mem_cons.mp hlines
      obtain ⟨-, hhead⟩ := List.forall_mem_cons.mp hhead
      have hcut : Search.text crlf queue ++ (Search.text crlf ls).take k ++ c = l ++ crlf ++
          (Search.text crlf rest ++ (Search.text crlf (ls.drop m)).take k') := by
        rw [hbuf, Search.text_cons]
        simp only [List.append_assoc]
      rw [List.cons_append, Search.text_cons] at hlen
      rw [Search.text_cons] at hlong
      simp only [List.length_append] at hlen hlong
      rw [drains_line hl hcut hfront (by rw [List.length_append]; omega),
        @ih rest (ls.drop m) k' hnext hlines hhead (by omega), ← and_assoc, List.cons_append,
        List.forall_mem_cons]
      rfl

/-! ## The number -/

/-- The number of the first `CSeq` that has come. -/
def firstNumber (xs : List (List Bytes × ℕ)) : Option UInt32 :=
  xs.findSome? fun x => cseqOf (Search.text crlf x.1)

theorem firstNumber_append (xs : List (List Bytes × ℕ)) (x : List Bytes × ℕ) :
    firstNumber (xs ++ [x]) = (firstNumber xs <|> cseqOf (Search.text crlf x.1)) := by
  unfold firstNumber
  rw [List.findSome?_append]
  cases xs.findSome? fun x => cseqOf (Search.text crlf x.1) with
  | some n => rfl
  | none => cases h : cseqOf (Search.text crlf x.1) <;> simp [h]

/-- A text has a number where it has a `CSeq`. -/
theorem cseqOf_isSome_iff {text : Bytes} :
    (cseqOf text).isSome = true ↔ ascii "CSeq" <:+: text := by
  unfold cseqOf
  rw [Option.isSome_map, Option.isSome_iff_ne_none, Ne, Search.find_eq_none_iff_not_isInfix,
    not_not]

theorem cseqOf_text_isSome_iff {ls : List Bytes} :
    (cseqOf (Search.text crlf ls)).isSome = true ↔ ∃ l ∈ ls, ascii "CSeq" <:+: l := by
  rw [cseqOf_isSome_iff, Search.isInfix_text_iff (by decide) (by decide) (by decide)]

/-- **A number has been seen** when a line with a `CSeq` has come. -/
theorem firstNumber_isSome_iff {xs : List (List Bytes × ℕ)} :
    (firstNumber xs).isSome = true ↔ ∃ l ∈ Search.arrived xs, ascii "CSeq" <:+: l := by
  induction xs using List.reverseRecOn with
  | nil => simp [firstNumber]
  | append_singleton xs x ih =>
    have hor : (firstNumber xs <|> cseqOf (Search.text crlf x.1)).isSome = true ↔
        (firstNumber xs).isSome = true ∨ (cseqOf (Search.text crlf x.1)).isSome = true := by
      cases firstNumber xs <;> simp
    rw [firstNumber_append, hor, ih, cseqOf_text_isSome_iff, Search.arrived_append,
      Search.arrived_cons, Search.arrived_nil, List.append_nil]
    simp only [List.mem_append, or_and_right, exists_or]

/-- **A number that is complete in a part** is the number of the text around it, if no
line in front has a `CSeq`. -/
theorem cseqOf_around {front : List Bytes} {part : Bytes}
    (hfront : ∀ l ∈ front, ¬ ascii "CSeq" <:+: l) (hend : [0x0a] <:+ part) (hnul : 0 ∉ part)
    (h : ShowsNumber part) (rest : Bytes) :
    cseqOf (Search.text crlf front ++ (part ++ rest)) = cseqOf part := by
  obtain ⟨k, hk, tail, htail, b, hb, hspace⟩ := h
  have hlen := (Search.find_eq_some_iff.mp hk).1
  have hpart : Search.find (ascii "CSeq") (part ++ rest) = some k := Search.find_append_of_some hk
  have hfind : Search.find (ascii "CSeq") (Search.text crlf front ++ (part ++ rest))
      = some ((Search.text crlf front).length + k) :=
    Search.find_text_append (by decide) (by decide) (by decide) hfront hpart
  have hnul' : 0 ∉ part.drop k := fun hmem => hnul ((List.drop_suffix _ _).subset hmem)
  have hcolon : 0x3a ∈ part.drop k := by
    obtain ⟨text, heq, -, -⟩ := skipPast_eq_some_iff.mp htail
    rw [heq]
    exact List.mem_append_right _ List.mem_cons_self
  have hsuffix : tail <:+ part := by
    obtain ⟨text, heq, -, -⟩ := skipPast_eq_some_iff.mp htail
    exact List.IsSuffix.trans ⟨text ++ [0x3a], by rw [heq, List.append_assoc]; rfl⟩
      (List.drop_suffix k part)
  have hne : tail.dropWhile isSpace ≠ [] := List.ne_nil_of_mem (mem_dropWhile_isSpace hb hspace)
  have hlf : 0x0a ∈ tail.dropWhile isSpace :=
    (List.suffix_of_suffix_length_le hend ((List.dropWhile_suffix _).trans hsuffix)
      (List.length_pos_iff.mpr hne)).subset List.mem_cons_self
  have hscan : sscanfNumbers (part.drop k ++ rest) [.skipUpTo 0x3a, .lit 0x3a, .space, .u]
      = sscanfNumbers (part.drop k) [.skipUpTo 0x3a, .lit 0x3a, .space, .u] := by
    unfold sscanfNumbers sscanf
    rw [cstr_append hnul', cstr_of_notMem hnul', scan_skipPast, scan_skipPast,
      skipPast_append hcolon, htail, Option.map_some]
    generalize cstr rest = rest
    dsimp only [scan]
    rw [List.dropWhile_idempotent, List.dropWhile_idempotent, dropWhile_isSpace_append hne,
      number_append hlf (by decide) (by decide)]
    cases number (tail.dropWhile isSpace) <;> rfl
  unfold cseqOf
  rw [hfind, hk, Option.map_some, Option.map_some, ← List.drop_drop, List.drop_left,
    List.drop_append_of_le_length hlen, hscan]

/-- A number that is not complete is read as 0. -/
theorem cseqOf_of_not_showsNumber {part : Bytes} (hnul : 0 ∉ part)
    (hin : ascii "CSeq" <:+: part) (h : ¬ ShowsNumber part) : cseqOf part = some 0 := by
  obtain ⟨k, hk⟩ := Option.isSome_iff_exists.mp (find_isSome_of_isInfix hin)
  have hnul' : 0 ∉ part.drop k := fun hmem => hnul ((List.drop_suffix _ _).subset hmem)
  have hscan : sscanfNumbers (part.drop k) [.skipUpTo 0x3a, .lit 0x3a, .space, .u] = [] := by
    unfold sscanfNumbers sscanf
    rw [cstr_of_notMem hnul', scan_skipPast]
    cases htail : skipPast 0x3a (part.drop k) with
    | none => rfl
    | some tail =>
      have hblank : tail.dropWhile isSpace = [] := by
        rw [List.dropWhile_eq_nil_iff]
        intro b hb
        by_contra hspace
        exact h ⟨k, hk, tail, htail, b, hb, by simpa using hspace⟩
      dsimp only [scan]
      rw [List.dropWhile_idempotent, hblank]
      rfl
  unfold cseqOf
  rw [hk, Option.map_some, hscan]

/-- The first read with a `CSeq`. -/
theorem exists_first_cseq {xs : List (List Bytes × ℕ)}
    (h : ∃ l ∈ Search.arrived xs, ascii "CSeq" <:+: l) : ∃ e x e', xs = e ++ x :: e' ∧
      (∀ l ∈ Search.arrived e, ¬ ascii "CSeq" <:+: l) ∧ ∃ l ∈ x.1, ascii "CSeq" <:+: l := by
  induction xs with
  | nil => obtain ⟨l, hl, -⟩ := h; cases hl
  | cons x xs ih =>
    by_cases hx : ∃ l ∈ x.1, ascii "CSeq" <:+: l
    · exact ⟨[], x, xs, rfl, fun l hl => absurd hl List.not_mem_nil, hx⟩
    · rw [Search.arrived_cons] at h
      simp only [List.mem_append, or_and_right, exists_or] at h
      obtain ⟨e, y, e', rfl, hno, hy⟩ := ih (h.resolve_left hx)
      refine ⟨x :: e, y, e', rfl, fun l hl => ?_, hy⟩
      rcases List.mem_append.mp hl with hl | hl
      · exact fun hin => hx ⟨l, hl, hin⟩
      · exact hno l hl

/-- The number that the reads show is that of the read with the first `CSeq`. -/
theorem firstNumber_of_first {e : List (List Bytes × ℕ)} (e' : List (List Bytes × ℕ))
    {x : List Bytes × ℕ} (hno : ∀ l ∈ Search.arrived e, ¬ ascii "CSeq" <:+: l)
    (hx : ∃ l ∈ x.1, ascii "CSeq" <:+: l) :
    firstNumber (e ++ x :: e') = cseqOf (Search.text crlf x.1) := by
  have hnone : firstNumber e = none := by
    by_contra hsome
    obtain ⟨l, hl, hin⟩ := firstNumber_isSome_iff.mp (Option.isSome_iff_ne_none.mpr hsome)
    exact hno l hl hin
  obtain ⟨n, hn⟩ := Option.isSome_iff_exists.mp (cseqOf_text_isSome_iff.mpr hx)
  unfold firstNumber at hnone ⊢
  rw [List.findSome?_append, hnone, List.findSome?_cons, hn]
  rfl

/-- **The reads show the number of the whole request** when the read with the first
`CSeq` has the number. -/
theorem firstNumber_eq_iff {reads : List (List Bytes × ℕ)} {rest : List Bytes}
    (hlines : r.blockLines = Search.arrived reads ++ rest)
    (hseen : ∃ l ∈ Search.arrived reads, ascii "CSeq" <:+: l) :
    firstNumber reads = cseqOf r.headerText ↔ r.NumberComes reads := by
  have hshown : ∀ e x e', reads = e ++ x :: e' →
      (∀ l ∈ Search.arrived e, ¬ ascii "CSeq" <:+: l) → ShowsNumber (Search.text crlf x.1) →
      (∃ l ∈ x.1, ascii "CSeq" <:+: l) ∧
        cseqOf r.headerText = cseqOf (Search.text crlf x.1) := by
    intro e x e' heq hno hshows
    have hin : ascii "CSeq" <:+: Search.text crlf x.1 := by
      obtain ⟨k, hk, -⟩ := hshows
      exact cseqOf_isSome_iff.mp (by unfold cseqOf; rw [hk]; rfl)
    have hx := (Search.isInfix_text_iff (by decide) (by decide) (by decide)).mp hin
    have hmem : ∀ l ∈ x.1, l ∈ r.blockLines := by
      intro l hl
      rw [hlines, heq, Search.arrived_append, Search.arrived_cons]
      simp [hl]
    have hne : x.1 ≠ [] := by
      obtain ⟨l, hl, -⟩ := hx
      exact List.ne_nil_of_mem hl
    obtain ⟨text, htext⟩ := exists_text_eq hne
    have haround := cseqOf_around hno ⟨text ++ [0x0d], by rw [htext, List.append_assoc]; rfl⟩
      (nul_notMem_text fun l hl => nul_notMem_of_mem (hmem l hl)) hshows
      (Search.text crlf (Search.arrived e' ++ rest))
    refine ⟨hx, ?_⟩
    rw [← haround, ← cseqOf_append_crlf, ← text_blockLines, hlines, heq, Search.arrived_append,
      Search.arrived_cons]
    simp only [Search.text_append, List.append_assoc]
  obtain ⟨e, x, e', heq, hno, hx⟩ := exists_first_cseq hseen
  have hnumber := firstNumber_of_first e' hno hx
  rw [← heq] at hnumber
  have hzero : ¬ ShowsNumber (Search.text crlf x.1) →
      cseqOf (Search.text crlf x.1) = some 0 := by
    refine cseqOf_of_not_showsNumber
      (nul_notMem_text fun l hl => nul_notMem_of_mem (show l ∈ r.blockLines from ?_))
      ((Search.isInfix_text_iff (by decide) (by decide) (by decide)).mpr hx)
    rw [hlines, heq, Search.arrived_append, Search.arrived_cons]
    simp [hl]
  by_cases hshows : ShowsNumber (Search.text crlf x.1)
  · exact iff_of_true (hnumber.trans (hshown e x e' heq hno hshows).2.symm)
      (.inl ⟨e, x, e', heq, hno, hshows⟩)
  · rw [hnumber, hzero hshows]
    constructor
    · exact fun hwhole => .inr hwhole.symm
    · rintro (⟨e₂, x₂, e₂', heq₂, hno₂, hshows₂⟩ | hwhole)
      · obtain ⟨hx₂, hwhole⟩ := hshown e₂ x₂ e₂' heq₂ hno₂ hshows₂
        rw [hwhole, ← firstNumber_of_first e₂' hno₂ hx₂, ← heq₂, hnumber, hzero hshows]
      · exact hwhole.symm

/-! ## The transport -/

/-- A text with a complete transport names it. -/
theorem isInfix_of_readTransport {text : Bytes} (h : (readTransport text).2.isSome = true) :
    ascii "Transport" <:+: text ∧ ascii "RTP/AVP" <:+: text := by
  have hname : ascii "Transport" <:+: text := by
    by_contra hno
    unfold readTransport at h
    rw [if_pos (Search.find_eq_none_iff_not_isInfix.mpr hno)] at h
    cases h
  refine ⟨hname, ?_⟩
  by_contra hno
  have htcp : ¬ ascii "RTP/AVP/TCP" <:+: text := fun hin =>
    hno (List.IsInfix.trans (by decide) hin)
  have hword : ∀ word, ¬ Says word text := by
    rintro word ⟨k, hk, -⟩
    rw [Search.find_eq_none_iff_not_isInfix.mpr hno] at hk
    cases hk
  rw [readTransport_eq hname, if_neg htcp, if_neg (hword _), if_neg (hword _)] at h
  cases h

/-- **A part that says what the text says** decides on its transport, when it is complete
and no line in front names one. -/
theorem transportOf_of_setupOf {front : List Bytes} {part behind : Bytes}
    (hfront : ∀ l ∈ front, ¬ ascii "RTP/AVP" <:+: l) (hnul : 0 ∉ part)
    (hpair : (readTransport part).2.isSome = true)
    (h : setupOf (Search.text crlf front ++ (part ++ behind)) = setupOf part) :
    TransportOf (Search.text crlf front) part behind := by
  obtain ⟨hname, -⟩ := isInfix_of_readTransport hpair
  have hmode := (Prod.ext_iff.mp h).1
  obtain ⟨htcp, hunicast, hmulticast⟩ := words_of_fst hname hmode
  refine ⟨htcp, hunicast, hmulticast, fun hnumbers hsome => ?_, fun hnumbers hnone => ?_⟩
  · have hkey : ascii "RTP/AVP" <:+: transportKey part ∧ transportKey part ≠ [] ∧
        ∀ b ∈ crlf, b ∉ transportKey part := by
      unfold transportKey
      split <;> decide
    obtain ⟨ab, hab⟩ := Option.isSome_iff_exists.mp hsome
    obtain ⟨k, hk, hscan⟩ := Option.bind_eq_some_iff.mp hab
    have hlen := (Search.find_eq_some_iff.mp hk).1
    have hpart : Search.find (transportKey part) (part ++ behind) = some k :=
      Search.find_append_of_some hk
    have hfind := Search.find_text_append (by decide) hkey.2.1 hkey.2.2
      (fun l hl hin => hfront l hl (hkey.1.trans hin)) hpart
    have hnul' : 0 ∉ part.drop k := fun hmem => hnul ((List.drop_suffix _ _).subset hmem)
    rw [scanPair_eq, cstr_of_notMem hnul'] at hscan
    obtain ⟨tail, htail, -⟩ := Option.bind_eq_some_iff.mp hscan
    have hle := (pairText_spec htail []).1.length_le
    unfold transportPlace
    rw [hfind, hk, Option.bind_some, Option.bind_some, ← List.drop_drop, List.drop_left,
      List.drop_append_of_le_length hlen, cstr_append hnul', cstr_of_notMem hnul', htail,
      (pairText_spec htail _).2, Option.map_some, Option.map_some, Option.map_some,
      List.length_append, List.length_append]
    congr 1
    omega
  · rw [isSome_readTransport hname hnumbers, hnone] at hpair
    cases hpair

/-! ## One read in the header state -/

section

variable {past : List (List Bytes × ℕ)} {ls lines : List Bytes} {k k' : ℕ} {c text : Bytes}
  {cs : List Bytes}

/-- **The test of a read** is whether its lines satisfy the method. -/
theorem completing_iff (htext : Search.text crlf lines = text ++ crlf) :
    Completing r.method (firstNumber past) text ↔ r.CompletedBy (Search.arrived past) lines := by
  have hne : lines ≠ [] := by
    rintro rfl
    have hlength := congrArg List.length htext
    simp [crlf] at hlength
  have hsome : (firstNumber past <|> cseqOf text).isSome = true ↔
      ∃ l ∈ Search.arrived past ++ lines, ascii "CSeq" <:+: l := by
    rw [← cseqOf_append_crlf, ← htext, ← firstNumber_append past (lines, 0),
      firstNumber_isSome_iff, Search.arrived_append, Search.arrived_cons, Search.arrived_nil,
      List.append_nil]
  unfold Completing CompletedBy
  rw [Bool.and_eq_true, hsome, ← completes_append_crlf, ← htext, and_iff_right hne]

/-- The number that has been seen after a read. -/
theorem firstNumber_read (htext : Search.text crlf lines = text ++ crlf) :
    (firstNumber past <|> cseqOf text) = firstNumber (past ++ [(lines, k')]) := by
  rw [firstNumber_append, ← cseqOf_append_crlf, htext]

/-- A read in which no line ends shows no number. -/
theorem firstNumber_append_nil : firstNumber (past ++ [([], k')]) = firstNumber past := by
  rw [firstNumber_append]
  have hnone : cseqOf (Search.text crlf []) = none := rfl
  dsimp only
  rw [hnone]
  cases firstNumber past <;> rfl

/-- The lines in front of a read, its own and those behind it are the whole request. -/
theorem setupOf_whole {lines late : List Bytes}
    (hlines : r.blockLines = Search.arrived past ++ (lines ++ late)) :
    setupOf (Search.text crlf (Search.arrived past) ++
      (Search.text crlf lines ++ Search.text crlf late)) = setupOf r.headerText := by
  rw [← setupOf_append_crlf r.headerText, ← text_blockLines, hlines, Search.text_append,
    Search.text_append]

/-- **A read says what the whole request says**, by the number and the transport. -/
theorem likeWhole_iff {late : List Bytes} (htext : Search.text crlf lines = text ++ crlf)
    (hlines : r.blockLines = Search.arrived past ++ (lines ++ late))
    (hdone : r.CompletedBy (Search.arrived past) lines) :
    r.LikeWhole (firstNumber past) text ↔ r.NumberComes (past ++ [(lines, k')]) ∧
      (r.method = .setup → setupOf (Search.text crlf lines) = setupOf r.headerText) := by
  have harrived : Search.arrived (past ++ [(lines, k')]) = Search.arrived past ++ lines := by
    rw [Search.arrived_append, Search.arrived_cons, Search.arrived_nil, List.append_nil]
  have hreads : r.blockLines = Search.arrived (past ++ [(lines, k')]) ++ late := by
    rw [harrived, hlines, List.append_assoc]
  have hseen : ∃ l ∈ Search.arrived (past ++ [(lines, k')]), ascii "CSeq" <:+: l := by
    rw [harrived]
    exact hdone.2.1
  rw [← firstNumber_eq_iff hreads hseen, ← firstNumber_read htext, htext, setupOf_append_crlf]
  exact ⟨fun h => ⟨h.cseq, h.setup⟩, fun h => ⟨h.1, h.2⟩⟩

/-- What is left when the read has dispatched the request. -/
theorem drains_late (hcs : Search.Carried crlf ls k cs) (hmem : ∀ l ∈ ls, l ∈ r.blockLines)
    (hhead : ∀ l ∈ ls, l.head? ≠ some 0x24)
    (hlen : (Search.text crlf ls).length ≤ maxRtspMessageSize) :
    Drains (trim ((Search.text crlf ls).take k)) cs ↔ (∀ l ∈ ls, RequestLine.Fits l) ∧
      ∀ j, (Search.arrived ((Search.arrivals crlf ls k cs).drop j)).length
        ≤ ((Search.arrivals crlf ls k cs).drop j).length := by
  have hiff := @drains_iff [] ls k cs hcs (fun l hl => isHeader_of_mem (hmem l hl)) hhead hlen
  rw [Search.text_nil, List.nil_append, List.nil_append, List.length_nil,
    Search.paced_zero] at hiff
  rw [trim_of_le ((List.take_prefix _ _).length_le.trans hlen), hiff]

/-- The first line that comes in some reads is the first line of one of them. -/
theorem front_of_arrived {P : Bytes → Prop} {reads late : List (List Bytes × ℕ)}
    {call : List Bytes × ℕ} (h : ∀ x ∈ reads ++ [call], ∀ l ∈ x.1.head?, P l)
    (hne : call.1 ≠ []) : ∀ l ∈ (Search.arrived (reads ++ call :: late)).head?, P l := by
  induction reads with
  | nil =>
    intro l hl
    rw [List.nil_append, Search.arrived_cons, List.head?_append_of_ne_nil _ hne] at hl
    exact h call List.mem_cons_self l hl
  | cons x reads ih =>
    obtain ⟨hx, hreads⟩ := List.forall_mem_cons.mp h
    intro l hl
    rw [List.cons_append, Search.arrived_cons] at hl
    by_cases hnil : x.1 = []
    · rw [hnil, List.nil_append] at hl
      exact ih hreads l hl
    · rw [List.head?_append_of_ne_nil _ hnil] at hl
      exact hx l hl

/-! ## The reads of the header lines -/

/-- What has begun of a line is kept for the next read. -/
theorem trim_take_of_le {bs : Bytes} (h : k ≤ maxRtspMessageSize) :
    trim (bs.take k) = bs.take k := by
  refine trim_of_le (le_trans ?_ h)
  rw [List.length_take]
  exact Nat.min_le_left _ _

/-- **The read that dispatches the request as it should be** does no harm, whatever has
come before it. -/
theorem DispatchesWell.headersArrive (hcs : Search.Carried crlf ls k cs)
    (hlines : r.blockLines = Search.arrived past ++ (lines ++ ls))
    (hwell : r.DispatchesWell past (lines, k) (Search.arrivals crlf ls k cs)) :
    HeadersArrive r (firstNumber past)
      (Search.text crlf lines ++ (Search.text crlf ls).take k) cs := by
  have hmem : ∀ l ∈ ls, l ∈ r.blockLines := by
    intro l hl
    rw [hlines]
    exact List.mem_append_right _ (List.mem_append_right _ hl)
  have hdrops := hwell.drops
  have hkeeps := hwell.keeps
  have hsetup := hwell.setup
  rw [hcs.arrived_arrivals] at hdrops hkeeps hsetup
  obtain ⟨text, htext⟩ := exists_text_eq hwell.done.1
  have hlike : r.LikeWhole (firstNumber past) text := by
    refine (likeWhole_iff htext hlines hwell.done).mpr ⟨hwell.number, fun hmethod => ?_⟩
    have hpair := hwell.done.2.2
    rw [hmethod] at hpair
    have hread := (hsetup hmethod).readTransport
      ⟨text ++ [0x0d], by rw [htext, List.append_assoc]; rfl⟩ (isInfix_of_readTransport hpair).1
    rw [← setupOf_whole hlines]
    unfold setupOf transportNumber
    rw [hread]
  have hdrains : Drains (trim ((Search.text crlf ls).take k)) cs :=
    (drains_late hcs hmem (fun l hl => (hdrops l hl).2) hkeeps).mpr
      ⟨fun l hl => (hdrops l hl).1, hwell.drained⟩
  rw [htext]
  exact .complete (not_crlf_carried hcs fun l hl => isLine_of_mem (hmem l hl))
    ((completing_iff htext).mpr hwell.done) hlike hdrains

/-- **A read before it**, whose lines do not satisfy the method: what has begun of the
next line is kept, and the next read goes on with it. -/
theorem headersArrive_of_earlier (hcs : Search.Carried crlf ls k (c :: cs))
    (hmem : ∀ l ∈ ls, l ∈ r.blockLines) (hk : k ≤ maxRtspMessageSize)
    (hfront : ∀ l ∈ ls.head?, l.head? ≠ some 0x24)
    (hdone : ¬ r.CompletedBy (Search.arrived past) lines)
    (hrest : HeadersArrive r (firstNumber (past ++ [(lines, k)]))
      ((Search.text crlf ls).take k ++ c) cs) :
    HeadersArrive r (firstNumber past)
      (Search.text crlf lines ++ (Search.text crlf ls).take k) (c :: cs) := by
  have htrim : trim ((Search.text crlf ls).take k) = (Search.text crlf ls).take k :=
    trim_take_of_le hk
  have hnocrlf := not_crlf_carried hcs fun l hl => isLine_of_mem (hmem l hl)
  have hhead : (trim ((Search.text crlf ls).take k) ++ c).head? ≠ some 0x24 := by
    rw [htrim]
    refine @head_of_begins ls _ ⟨cs.flatten, ?_⟩ hfront
    rw [List.append_assoc]
    exact hcs.bytes
  by_cases hnil : lines = []
  · rw [hnil, firstNumber_append_nil] at hrest
    rw [hnil, Search.text_nil, List.nil_append]
    exact .waits hnocrlf hhead (by rwa [htrim])
  · obtain ⟨text, htext⟩ := exists_text_eq hnil
    rw [htext]
    refine .more hnocrlf (fun hdone' => hdone ((completing_iff htext).mp hdone')) hhead ?_
    rw [htrim, firstNumber_read htext]
    exact hrest

/-- **Cuts that dispatch the request as it should be** do no harm. The induction is on
the reads before the one that dispatches it; `past` are those that are over. -/
theorem headersArrive_of_dispatchesWell {early late : List (List Bytes × ℕ)}
    {call : List Bytes × ℕ} (hcs : Search.Carried crlf ls k (c :: cs))
    (hlines : r.blockLines = Search.arrived past ++ ls)
    (harr : Search.arrivals crlf ls k (c :: cs) = early ++ call :: late)
    (hwell : r.DispatchesWell (past ++ early) call late) :
    HeadersArrive r (firstNumber past) ((Search.text crlf ls).take k ++ c) cs := by
  induction early generalizing past ls k c cs with
  | nil =>
    obtain ⟨hbytes, hnext⟩ := hcs.step
    rw [Search.arrivals, List.nil_append] at harr
    obtain ⟨rfl, rfl⟩ := List.cons.inj harr
    rw [List.append_nil] at hwell
    generalize Search.ended crlf ls (k + c.length) = m at hbytes hnext hwell
    generalize k + c.length - (Search.text crlf (ls.take m)).length = k' at hbytes hnext hwell
    rw [← List.take_append_drop m ls] at hlines
    rw [hbytes]
    exact hwell.headersArrive hnext hlines
  | cons x early ih =>
    obtain ⟨hbytes, hnext⟩ := hcs.step
    rw [Search.arrivals, List.cons_append] at harr
    obtain ⟨hx, htail⟩ := List.cons.inj harr
    subst hx
    clear harr
    generalize Search.ended crlf ls (k + c.length) = m at hbytes hnext hwell htail
    generalize k + c.length - (Search.text crlf (ls.take m)).length = k' at hbytes hnext hwell htail
    have hmem : ∀ l ∈ ls.drop m, l ∈ r.blockLines := by
      intro l hl
      rw [hlines]
      exact List.mem_append_right _ (List.mem_of_mem_drop hl)
    cases cs with
    | nil => cases early <;> cases htail
    | cons c' cs =>
      have hkept : k' ≤ maxRtspMessageSize :=
        hwell.kept (ls.take m, k') (List.mem_append_right _ List.mem_cons_self)
      -- a line that begins in this read is the first that ends in one of the next
      have hfront : ∀ l ∈ (ls.drop m).head?, l.head? ≠ some 0x24 := by
        intro l hl
        rw [← hnext.arrived_arrivals, htail] at hl
        refine front_of_arrived (fun y hy => hwell.front y ?_) hwell.done.1 l hl
        cases past with
        | nil => exact hy
        | cons z past =>
          rw [List.append_assoc]
          exact List.mem_append_right _ (List.mem_cons_of_mem _ hy)
      have hnot : ¬ r.CompletedBy (Search.arrived past) (ls.take m) :=
        hwell.first past (ls.take m, k') early rfl
      have hrest := @ih (past ++ [(ls.take m, k')]) (ls.drop m) k' c' cs hnext
        (by rw [hlines, Search.arrived_append, Search.arrived_cons, Search.arrived_nil,
          List.append_nil, List.append_assoc, List.take_append_drop]) htail
        (by rwa [List.append_assoc])
      rw [hbytes]
      exact headersArrive_of_earlier hnext hmem hkept hfront hnot hrest

/-- In a plain SETUP no line in front of the one with the transport names one. -/
theorem Plain.front_of_transport (hplain : r.Plain) (hmethod : r.method = .setup)
    {front late : List Bytes} (hlines : r.blockLines = front ++ (lines ++ late))
    (hin : ascii "RTP/AVP" <:+: Search.text crlf lines) :
    ∀ l ∈ front, ¬ ascii "RTP/AVP" <:+: l := by
  intro l hl hinl
  obtain ⟨l', hl', hinl'⟩ :=
    (Search.isInfix_text_iff (by decide) (by decide) (by decide)).mp hin
  have honce := hplain.once hmethod
  rw [hlines, List.filter_append, List.filter_append, List.length_append,
    List.length_append] at honce
  have hfront : 0 < (front.filter fun l => ascii "RTP/AVP" <:+: l).length :=
    List.length_pos_iff_exists_mem.mpr ⟨l, List.mem_filter.mpr ⟨hl, decide_eq_true hinl⟩⟩
  have hown : 0 < (lines.filter fun l => ascii "RTP/AVP" <:+: l).length :=
    List.length_pos_iff_exists_mem.mpr ⟨l', List.mem_filter.mpr ⟨hl', decide_eq_true hinl'⟩⟩
  omega

/-- A plain request that comes to no harm from here on, with a read that dispatches it. -/
theorem Plain.dispatchesWell (hplain : r.Plain) (hcs : Search.Carried crlf ls k cs)
    (hlines : r.blockLines = Search.arrived past ++ (lines ++ ls))
    (hfirst : ∀ e x e', past = e ++ x :: e' → ¬ r.CompletedBy (Search.arrived e) x.1)
    (hkept : ∀ x ∈ past, x.2 ≤ maxRtspMessageSize)
    (hdone : r.CompletedBy (Search.arrived past) lines)
    (h : HeadersArrive r (firstNumber past)
      (Search.text crlf lines ++ (Search.text crlf ls).take k) cs) :
    r.DispatchesWell past (lines, k) (Search.arrivals crlf ls k cs) := by
  have hmem : ∀ l ∈ lines ++ ls, l ∈ r.blockLines := fun l hl => by
    rw [hlines]
    exact List.mem_append_right _ hl
  have hlate : ∀ l ∈ ls, l ∈ r.blockLines := fun l hl => hmem l (List.mem_append_right _ hl)
  have hshort : (Search.text crlf ls).length ≤ maxRtspMessageSize := by
    have htotal := hplain.short
    rw [← text_blockLines, hlines, Search.text_append, Search.text_append, List.length_append,
      List.length_append] at htotal
    omega
  obtain ⟨text, htext⟩ := exists_text_eq hdone.1
  rw [htext, headersArrive_of_completing
    (not_crlf_carried hcs fun l hl => isLine_of_mem (hlate l hl))
    ((completing_iff htext).mpr hdone)] at h
  obtain ⟨hnumber, hsetup⟩ := (likeWhole_iff htext hlines hdone).mp h.1
  obtain ⟨hfits, hpaced⟩ :=
    (drains_late hcs hlate (fun l hl => hplain.front l (hlate l hl)) hshort).mp h.2
  have harrived := hcs.arrived_arrivals
  refine ⟨hfirst, hdone, hnumber, fun hmethod => ?_, fun x hx l hl => ?_, hkept, ?_, ?_, hpaced⟩
  · have hpair := hdone.2.2
    rw [hmethod] at hpair
    rw [harrived]
    refine transportOf_of_setupOf (hplain.front_of_transport hmethod hlines
      (isInfix_of_readTransport hpair).2) (nul_notMem_text fun l hl =>
        nul_notMem_of_mem (hmem l (List.mem_append_left _ hl))) hpair ?_
    rw [setupOf_whole hlines, hsetup hmethod]
  · refine hplain.front l ?_
    rw [hlines, ← List.append_assoc]
    refine List.mem_append_left _ ?_
    rcases List.mem_append.mp (List.mem_of_mem_tail hx) with hx | hx
    · exact List.mem_append_left _ (List.mem_flatMap.mpr ⟨x, hx, List.mem_of_mem_head? hl⟩)
    · rw [List.mem_singleton.mp hx] at hl
      exact List.mem_append_right _ (List.mem_of_mem_head? hl)
  · rw [harrived]
    exact fun l hl => ⟨hfits l hl, hplain.front l (hlate l hl)⟩
  · rw [harrived]
    exact hshort

/-- A request that comes to no harm, after a read that does not dispatch it. -/
theorem headersArrive_of_not_completedBy (hcs : Search.Carried crlf ls k cs)
    (hmem : ∀ l ∈ ls, l ∈ r.blockLines) (hk : k ≤ maxRtspMessageSize)
    (hdone : ¬ r.CompletedBy (Search.arrived past) lines)
    (h : HeadersArrive r (firstNumber past)
      (Search.text crlf lines ++ (Search.text crlf ls).take k) cs) :
    ∃ c cs', cs = c :: cs' ∧ HeadersArrive r (firstNumber (past ++ [(lines, k)]))
      ((Search.text crlf ls).take k ++ c) cs' := by
  have hnocrlf := not_crlf_carried hcs fun l hl => isLine_of_mem (hmem l hl)
  have htrim : trim ((Search.text crlf ls).take k) = (Search.text crlf ls).take k :=
    trim_take_of_le hk
  by_cases hnil : lines = []
  · rw [hnil, Search.text_nil, List.nil_append] at h
    cases cs with
    | nil =>
      refine absurd h (not_headersArrive_nil ?_)
      rintro text rest - hcut
      exact absurd ⟨text, rest, hcut.symm⟩ hnocrlf
    | cons c cs =>
      rw [headersArrive_of_no_crlf hnocrlf, htrim] at h
      exact ⟨c, cs, rfl, by rw [hnil, firstNumber_append_nil]; exact h.2⟩
  · obtain ⟨text, htext⟩ := exists_text_eq hnil
    have hnot : ¬ Completing r.method (firstNumber past) text := fun hdone' =>
      hdone ((completing_iff htext).mp hdone')
    rw [htext] at h
    cases cs with
    | nil =>
      refine absurd h (not_headersArrive_nil ?_)
      intro text' rest hrest hcut
      obtain ⟨rfl, -⟩ := Buffer.last_crlf_unique hnocrlf hrest hcut
      exact hnot
    | cons c cs =>
      rw [headersArrive_of_not_completing hnocrlf hnot, htrim, firstNumber_read htext] at h
      exact ⟨c, cs, rfl, h.2⟩

/-- **A plain request that comes to no harm is cut so that it is dispatched as it should
be.** The induction is on the number of reads that are left. -/
theorem Plain.exists_dispatchesWell (hplain : r.Plain) (hcs : Search.Carried crlf ls k (c :: cs))
    (hlines : r.blockLines = Search.arrived past ++ ls)
    (hfirst : ∀ e x e', past = e ++ x :: e' → ¬ r.CompletedBy (Search.arrived e) x.1)
    (hkept : ∀ x ∈ past, x.2 ≤ maxRtspMessageSize)
    (h : HeadersArrive r (firstNumber past) ((Search.text crlf ls).take k ++ c) cs) :
    ∃ early call late, Search.arrivals crlf ls k (c :: cs) = early ++ call :: late ∧
      r.DispatchesWell (past ++ early) call late := by
  induction hlen : cs.length using Nat.strong_induction_on generalizing past ls k c cs with
  | _ n ih =>
  obtain ⟨hbytes, hnext⟩ := hcs.step
  rw [Search.arrivals]
  generalize Search.ended crlf ls (k + c.length) = m at hbytes hnext ⊢
  generalize k + c.length - (Search.text crlf (ls.take m)).length = k' at hbytes hnext ⊢
  rw [hbytes] at h
  rw [← List.take_append_drop m ls] at hlines
  by_cases hdone : r.CompletedBy (Search.arrived past) (ls.take m)
  · refine ⟨[], (ls.take m, k'), _, rfl, ?_⟩
    rw [List.append_nil]
    exact hplain.dispatchesWell hnext hlines hfirst hkept hdone h
  · have hmem : ∀ l ∈ ls.drop m, l ∈ r.blockLines := fun l hl => by
      rw [hlines]
      exact List.mem_append_right _ (List.mem_append_right _ hl)
    have hk : k' ≤ maxRtspMessageSize := by
      have htotal := hplain.short
      rw [← text_blockLines, hlines, Search.text_append, Search.text_append, List.length_append,
        List.length_append] at htotal
      have hle := hnext.le_length
      omega
    obtain ⟨c', cs', rfl, hrest⟩ := headersArrive_of_not_completedBy hnext hmem hk hdone h
    obtain ⟨early, call, late, harr, hwell⟩ := @ih cs'.length
      (hlen ▸ Nat.lt_succ_self _) (past ++ [(ls.take m, k')]) (ls.drop m) k' c' cs' hnext
      (by rw [hlines, Search.arrived_append, Search.arrived_cons, Search.arrived_nil,
        List.append_nil, List.append_assoc])
      (fun e x e' heq => by
        rcases List.eq_nil_or_concat' e' with rfl | ⟨e'', y, rfl⟩
        · obtain ⟨rfl, hx⟩ := List.append_inj' heq rfl
          obtain rfl := (List.cons.inj hx).1
          exact hdone
        · rw [← List.cons_append, ← List.append_assoc] at heq
          exact hfirst e x e'' (List.append_inj' heq rfl).1)
      (fun x hx => by
        rcases List.mem_append.mp hx with hx | hx
        · exact hkept x hx
        · rw [List.mem_singleton.mp hx]
          exact hk) hrest rfl
    refine ⟨(ls.take m, k') :: early, call, late, by rw [harr]; rfl, ?_⟩
    rwa [List.append_assoc] at hwell

end

/-! ## The request line -/

theorem flatten_piecesAfter (n : ℕ) (cs : List Bytes) :
    (piecesAfter n cs).flatten = cs.flatten.drop n := by
  induction cs generalizing n with
  | nil => rw [piecesAfter, List.flatten_nil, List.drop_nil]
  | cons c cs ih =>
    rw [piecesAfter, List.flatten_cons, List.drop_append]
    by_cases hlen : c.length < n
    · rw [if_pos hlen, ih, List.drop_of_length_le hlen.le, List.nil_append]
    · rw [if_neg hlen, List.flatten_cons, Nat.sub_eq_zero_of_le (Nat.le_of_not_lt hlen),
        List.drop_zero]

/-- **The reads up to the end of the request line** do not matter. -/
theorem lineArrives_iff {buf : Bytes} {cs : List Bytes} (hbytes : buf ++ cs.flatten = r.bytes)
    (hshort : buf.length < r.requestLine.length + 2) : LineArrives r buf cs ↔
      ∃ first rest, piecesAfter (r.requestLine.length + 2 - buf.length) cs = first :: rest ∧
        HeadersArrive r none first rest := by
  induction cs generalizing buf with
  | nil =>
    refine iff_of_false (fun h => ?_) ?_
    · cases h
    · rintro ⟨first, rest, h, -⟩
      cases h
  | cons c cs ih =>
    rw [List.flatten_cons, ← List.append_assoc] at hbytes
    rw [piecesAfter]
    by_cases hlen : (buf ++ c).length < r.requestLine.length + 2
    · have hlen' := hlen
      rw [List.length_append] at hlen'
      rw [if_pos (by omega)]
      have hrest := ih hbytes hlen
      rw [List.length_append, Nat.sub_add_eq] at hrest
      rw [← hrest]
      refine ⟨fun h => ?_, .waits hlen⟩
      cases h with
      | waits _ hnext => exact hnext
      | line hbuf =>
        rw [hbuf] at hlen
        simp only [crlf, List.length_append, List.length_cons, List.length_nil] at hlen
        omega
    · have hlen' := hlen
      rw [List.length_append] at hlen'
      rw [if_neg (by omega)]
      obtain ⟨first, hfirst⟩ : r.requestLine ++ crlf <+: buf ++ c := by
        refine List.prefix_of_prefix_length_le ⟨r.headerText ++ crlf, rfl⟩ ⟨_, hbytes⟩ ?_
        rw [List.length_append]
        exact Nat.le_of_not_lt hlen
      have hdrop : c.drop (r.requestLine.length + 2 - buf.length) = first := by
        have hline : (r.requestLine ++ crlf).length = r.requestLine.length + 2 := by
          rw [List.length_append]
          rfl
        have hcut := congrArg (List.drop (r.requestLine ++ crlf).length) hfirst
        rw [List.drop_left, hline, List.drop_append,
          List.drop_of_length_le (Nat.le_of_lt hshort), List.nil_append] at hcut
        exact hcut.symm
      rw [hdrop]
      refine ⟨fun h => ?_, ?_⟩
      · cases h with
        | waits hshort' => exact absurd hshort' hlen
        | line hbuf hnext =>
          rw [hbuf, List.append_right_inj] at hfirst
          exact ⟨first, cs, rfl, hfirst ▸ hnext⟩
      · rintro ⟨first', rest, heq, hnext⟩
        obtain ⟨rfl, rfl⟩ := List.cons.inj heq
        exact .line hfirst.symm hnext

/-! ## Every request -/

variable {p : RtspRequest} {cs : List Bytes}

/-- Cuts that do no harm bring the request whole. -/
theorem CutsWell.arrivesWhole (h : r.CutsWell cs) (hcs : cs.flatten = r.bytes) :
    r.ArrivesWhole cs := by
  refine ⟨h.accepted, h.completing, ?_⟩
  obtain ⟨early, call, late, harr, hwell⟩ := h.arrives
  have hpieces : (piecesAfter (r.requestLine.length + 2) cs).flatten
      = Search.text crlf r.blockLines := by
    rw [flatten_piecesAfter, hcs, text_blockLines, bytes,
      show r.requestLine.length + 2 = (r.requestLine ++ crlf).length by
        rw [List.length_append]; rfl, List.drop_left]
  have hshort : ([] : Bytes).length < r.requestLine.length + 2 := Nat.succ_pos _
  rw [lineArrives_iff hcs hshort, List.length_nil, Nat.sub_zero]
  unfold arrivals at harr
  cases hfirst : piecesAfter (r.requestLine.length + 2) cs with
  | nil =>
    rw [hfirst] at harr
    cases early <;> cases harr
  | cons first rest =>
    rw [hfirst] at harr hpieces
    refine ⟨first, rest, rfl, ?_⟩
    have hlines : r.blockLines = Search.arrived [] ++ r.blockLines := rfl
    exact headersArrive_of_dispatchesWell (.init (by decide) hpieces) hlines harr hwell

/-- A plain request that comes whole is cut so that it comes to no harm. -/
theorem Plain.cutsWell (hplain : r.Plain) (hcs : cs.flatten = r.bytes) (h : r.ArrivesWhole cs) :
    r.CutsWell cs := by
  refine ⟨h.accepted, h.completing, ?_⟩
  have hpieces : (piecesAfter (r.requestLine.length + 2) cs).flatten
      = Search.text crlf r.blockLines := by
    rw [flatten_piecesAfter, hcs, text_blockLines, bytes,
      show r.requestLine.length + 2 = (r.requestLine ++ crlf).length by
        rw [List.length_append]; rfl, List.drop_left]
  have harrives := h.arrives
  have hshort : ([] : Bytes).length < r.requestLine.length + 2 := Nat.succ_pos _
  rw [lineArrives_iff hcs hshort, List.length_nil, Nat.sub_zero] at harrives
  obtain ⟨first, rest, hfirst, hheaders⟩ := harrives
  unfold arrivals
  rw [hfirst] at hpieces ⊢
  have hlines : r.blockLines = Search.arrived [] ++ r.blockLines := rfl
  exact hplain.exists_dispatchesWell (.init (by decide) hpieces) hlines
    (fun e x e' heq => by cases e <;> cases heq) (fun x hx => absurd hx List.not_mem_nil) hheaders

/-- **When a request is put together from its pieces.** Cuts that bring the header lines
so that one read dispatches the request as it should be do no harm, to any request. And a
request that leaves nothing to accident is put together from no others. -/
theorem reassembled_iff (hp : p.IsInitial) (hcs : cs.flatten = r.bytes) :
    (r.CutsWell cs → Reassembled p r cs) ∧
    (r.Plain → (Reassembled p r cs ↔ r.CutsWell cs)) := by
  have hiff := reassembled_iff_arrivesWhole hp hcs
  have hwell : r.CutsWell cs → Reassembled p r cs := fun h => hiff.mpr (h.arrivesWhole hcs)
  exact ⟨hwell, fun hplain => ⟨fun h => hplain.cutsWell hcs (hiff.mp h), hwell⟩⟩

/-! ## Two requests -/

/-- A parser before its first request. -/
def unused : RtspRequest where
  method := .none
  channelId := .channel0
  transport := .rtpOverTcp

theorem isInitial_unused : unused.IsInitial := ⟨rfl, rfl, rfl⟩

/-- A DESCRIBE with its `Accept` behind the `CSeq`. -/
def describing : Request :=
  { plainDescribe with
    headers := plainDescribe.headers ++ [plainAccept]
    cseq_eq := by decide }

/-- The request line comes with the beginning of the `CSeq` line, the rest of this with the
beginning of the `Accept` line, and then the rest and the blank line alone. -/
def describingReads : List Bytes :=
  [describing.requestLine ++ crlf ++ ascii "CSe", ascii "q: 1" ++ crlf ++ ascii "Accept: appl",
    ascii "ication/sdp" ++ crlf, crlf]

theorem arrivals_describing : describing.arrivals describingReads
    = [([], 3), ([ascii "CSeq: 1"], 12), ([ascii "Accept: application/sdp"], 0), ([[]], 0)] := by
  decide +kernel

/-- The third read dispatches the DESCRIBE, and the fourth drops the blank line. -/
theorem dispatchesWell_describing : describing.DispatchesWell
    [([], 3), ([ascii "CSeq: 1"], 12)] ([ascii "Accept: application/sdp"], 0) [([[]], 0)] where
  first e x e' hsplit := by
    -- no line has ended, and the `CSeq` line has no `Accept`
    rcases e with _ | ⟨y, _ | ⟨z, e⟩⟩
    · obtain ⟨rfl, -⟩ := List.cons.inj hsplit
      exact fun h => h.1 rfl
    · obtain ⟨rfl, hrest⟩ := List.cons.inj hsplit
      obtain ⟨rfl, -⟩ := List.cons.inj hrest
      exact fun h => absurd h.2.2 (by decide)
    · obtain ⟨-, hrest⟩ := List.cons.inj hsplit
      obtain ⟨-, hrest⟩ := List.cons.inj hrest
      cases e <;> cases hrest
  done := ⟨by decide, ⟨ascii "CSeq: 1", by decide, by decide⟩, by decide⟩
  number := .inl ⟨[([], 3)], ([ascii "CSeq: 1"], 12), [([ascii "Accept: application/sdp"], 0)], rfl,
    by decide, 0, by decide, ascii " 1" ++ crlf, by decide, 0x31, by decide, by decide⟩
  setup h := by cases h
  front := by decide
  kept := by decide
  drops := by decide
  keeps := by decide
  drained := Search.paced_zero.mp (Search.paced_cons.mpr (Search.paced_nil.mpr rfl))

/-- It leaves nothing to accident. -/
theorem plain_describing : describing.Plain where
  short := by decide
  front := by decide
  once h := by cases h

/-- `reassembled_iff` for a DESCRIBE that is cut in its header lines. -/
theorem reassembled_describing : Reassembled unused describing describingReads ∧
    (Reassembled unused describing describingReads ↔ describing.CutsWell describingReads) := by
  have hcs : describingReads.flatten = describing.bytes := by decide
  have hcompleting : Completing describing.method none describing.headerText := by decide +kernel
  have hwell : describing.CutsWell describingReads :=
    ⟨accepted_plain rfl rfl, hcompleting, _, _, _, arrivals_describing, dispatchesWell_describing⟩
  exact ⟨(reassembled_iff isInitial_unused hcs).1 hwell,
    (reassembled_iff isInitial_unused hcs).2 plain_describing⟩

/-- The two lines come in one read each, the request line with the first and
the blank line with the second. -/
def describeReads : List Bytes :=
  [acceptingDescribe.requestLine ++ crlf ++ (plainAccept.line ++ crlf),
    ascii "CSeq: 1" ++ crlf ++ crlf]

/-- **The test forgets what came before**: the `Accept` is seen in the first
read, and not looked for again when the `CSeq` is there. -/
theorem describe_not_reassembled : ¬ ∀ (p : RtspRequest) (r : Request) (cs : List Bytes),
    p.IsInitial → (∃ whole, Yields p [] [r.bytes] [whole]) → cs.flatten = r.bytes →
      (∀ c ∈ cs, c ≠ []) → Reassembled p r cs := by
  intro hall
  have hacc : acceptingDescribe.Accepted := accepted_plain rfl rfl
  have hdone : Completing acceptingDescribe.method none acceptingDescribe.headerText := by
    decide +kernel
  obtain ⟨q₀, -, hiff⟩ := yields_whole isInitial_unused hacc
  have hcs : describeReads.flatten = acceptingDescribe.bytes := by decide
  have h := (reassembled_iff_arrivesWhole isInitial_unused hcs).mp
    (hall unused acceptingDescribe describeReads isInitial_unused
      ⟨_, (hiff _).mpr ⟨hdone, rfl⟩⟩ hcs (by decide))
  cases h.arrives with
  | waits hshort => exact absurd hshort (by decide)
  | @line _ _ first _ hbuf hnext =>
    obtain rfl : plainAccept.line ++ crlf ++ [] = first := by
      rw [List.append_nil]
      exact List.append_cancel_left hbuf
    rw [headersArrive_of_not_completing (by decide) (by decide +kernel)] at hnext
    refine not_headersArrive_nil (fun text rest hrest hsplit => ?_) hnext.2
    have hlast : ascii "CSeq: 1" ++ crlf ++ crlf ++ [] = text ++ crlf ++ rest := by
      rw [List.append_nil]
      exact hsplit
    obtain ⟨rfl, rfl⟩ := Buffer.last_crlf_unique (by decide) hrest hlast
    decide +kernel

end Request
