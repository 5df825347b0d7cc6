import RtspServer.RequestText

/-!
# After a rejected request

A request line that is rejected is taken from the buffer, and nothing else:
the header lines behind it stay, and are given to the parser as request lines,
one in each read. No header line is accepted as one, since its first word has
a colon. So the read that delivers the next request dispatches nothing, unless
the lines that were left are so long that the buffer was emptied
(`recovers_iff`).
-/

open Scanf

/-- **A header line**: a name, a colon and a value. -/
def IsHeader (l : Bytes) : Prop :=
  ∃ name value, l = name ++ 0x3a :: value ∧ IsWord name ∧ 0x3a ∉ name ∧ IsLine value

theorem IsHeader.isLine {l : Bytes} (h : IsHeader l) : IsLine l := by
  obtain ⟨name, value, rfl, hname, -, hvalue⟩ := h
  have hcolon : IsLine [0x3a] := by decide
  exact hname.isLine.append (hcolon.append hvalue)

namespace RequestLine

/-- The name of a method has no colon. -/
theorem colon_notMem_of_ofName {word : Bytes} (h : Method.ofName word ≠ .none) : 0x3a ∉ word := by
  obtain ⟨hname, hsupported⟩ := Method.name_of_ofName h
  rw [hname]
  simp only [Method.supported, List.mem_cons, List.not_mem_nil, or_false] at hsupported
  rcases hsupported with h | h | h | h | h | h <;> rw [h] <;> decide

/-- The first word of a header line goes beyond its colon. -/
theorem colon_mem_methodWord {l : Bytes} (h : IsHeader l) : 0x3a ∈ methodWord l := by
  obtain ⟨name, value, rfl, hname, -, -⟩ := h
  have hcstr : cstr (name ++ 0x3a :: value) = name ++ (0x3a :: cstr value) := by
    rw [cstr_append hname.nul_notMem, cstr, List.takeWhile_cons_of_pos (by decide)]
    rfl
  unfold methodWord firstWord
  rw [hcstr, hname.dropWhile, List.takeWhile_append_of_pos fun b hb => by
    rw [hname.not_isSpace b hb]; rfl, List.takeWhile_cons_of_pos (by decide)]
  exact List.mem_append_right _ List.mem_cons_self

/-- **A line whose first word names no method** is rejected, or overflows. -/
theorem parseRequestLine_of_ofName {l : Bytes} (h : Method.ofName (methodWord l) = .none)
    (p : RtspRequest) : (∃ e, p.parseRequestLine l = .error e) ∨
      ∃ q, p.parseRequestLine l = .ok (false, q) ∧ q.state = p.state := by
  rw [parseRequestLine_eq]
  by_cases hfits : Fits l
  · rw [if_pos hfits]
    unfold readLine
    rw [if_pos h]
    by_cases hnil : versionWord l = []
    · rw [if_pos hnil]
      exact .inr ⟨_, rfl, rfl⟩
    · rw [if_neg hnil]
      exact .inr ⟨_, rfl, rfl⟩
  · rw [if_neg hfits]
    exact .inl ⟨_, rfl⟩

end RequestLine

namespace RtspReader

/-- **A buffer that begins with a line that names no method** has no request
dispatched. -/
theorem readStep_of_ofName {p : RtspRequest} (hp : p.state = .parseRequestLine) {l : Bytes}
    (hl : IsLine l) (hmethod : Method.ofName (RequestLine.methodWord l) = .none) (rest : Bytes)
    {p' r : RtspRequest} {buf' : Buffer} :
    readStep p (l ++ crlf ++ rest) ≠ .ok (p', buf', some r) := by
  intro hread
  by_cases hhead : (l ++ crlf ++ rest).head? = some 0x24
  · rw [readStep_frame p hhead] at hread
    cases hread
  · have htake : (l ++ crlf ++ rest).take l.length = l := by
      rw [List.append_assoc, List.take_left]
    rcases RequestLine.parseRequestLine_of_ofName hmethod p with ⟨e, he⟩ | ⟨q, hq, hstate⟩
    · rw [readStep_error hp (Buffer.findCRLF_line hl rest) hhead (by rw [htake]; exact he)] at hread
      cases hread
    · rw [readStep_rejected hp (Buffer.findCRLF_line hl rest) hhead (by rw [htake]; exact hq)
        (hstate.trans hp)] at hread
      cases hread

/-- **A second request is dispatched after a first one**, each delivered whole
in a read of its own, as a new connection would dispatch it. -/
def Recovers (p : RtspRequest) (first second : Bytes) : Prop :=
  ∃ p' buf', readStep p first = .ok (p', buf', none) ∧
    ∃ fresh q, fresh.IsInitial ∧ readStep fresh second = .ok (q.reset, [], some q) ∧
      readStep p' (buf' ++ second) = .ok (q.reset, [], some q)

/-- The read of a rejected request leaves its header lines and its blank line,
unless they are too long to be kept. -/
theorem readStep_rejectedLine {p : RtspRequest} (hp : p.IsInitial) {line : Bytes}
    (hline : IsLine line) (hhead : line.head? ≠ some 0x24)
    (hreject : ∃ q, p.parseRequestLine line = .ok (false, q)) (rest : Bytes) :
    ∃ q, q.IsInitial ∧ readStep p (line ++ crlf ++ rest) = .ok (q, trim rest, none) := by
  obtain ⟨q, hq⟩ := hreject
  have hinitial : q.IsInitial := by
    rcases RtspRequest.parseRequestLine_cases line with ⟨e, he⟩ | hrejected | haccepted
    · rw [he p] at hq
      cases hq
    · obtain ⟨q', hq', hstate, hline, hheader⟩ := hrejected p
      rw [hq] at hq'
      cases hq'
      exact ⟨hstate.trans hp.state, hline.trans hp.requestLineParam,
        hheader.trans hp.headerLineParam⟩
    · obtain ⟨q', hq', -⟩ := haccepted p
      rw [hq] at hq'
      cases hq'
  have hhead' : (line ++ crlf ++ rest).head? ≠ some 0x24 := by
    cases line with
    | nil => exact fun h => absurd (Option.some.inj h) (by decide)
    | cons b bs => exact hhead
  have htake : (line ++ crlf ++ rest).take line.length = line := by
    rw [List.append_assoc, List.take_left]
  have hdrop : (line ++ crlf ++ rest).drop (line.length + 2) = rest := by
    rw [show line.length + 2 = (line ++ crlf).length by rw [List.length_append]; rfl,
      List.drop_left]
  have hread := readStep_rejected hp.state (Buffer.findCRLF_line hline rest) hhead'
    (by rw [htake]; exact hq) hinitial.state
  rw [hdrop] at hread
  exact ⟨q, hinitial, hread⟩

/-- **Header lines that were left are in the way**: the read that delivers
what follows them dispatches nothing. -/
theorem readStep_headersLeft {p : RtspRequest} (hp : p.state = .parseRequestLine)
    {headers : List Bytes} (hheaders : ∀ l ∈ headers, IsHeader l) (rest : Bytes)
    {p' r : RtspRequest} {buf' : Buffer} :
    readStep p (Search.text crlf headers ++ crlf ++ rest) ≠ .ok (p', buf', some r) := by
  cases headers with
  | nil => exact readStep_of_ofName hp (by decide) rfl rest
  | cons l headers =>
    have hl := hheaders l List.mem_cons_self
    have hnone : Method.ofName (RequestLine.methodWord l) = .none := by
      by_contra hmethod
      exact RequestLine.colon_notMem_of_ofName hmethod (RequestLine.colon_mem_methodWord hl)
    have htext : Search.text crlf (l :: headers) ++ crlf ++ rest
        = l ++ crlf ++ (Search.text crlf headers ++ crlf ++ rest) := by
      simp only [Search.text_cons, List.append_assoc]
    rw [htext]
    exact readStep_of_ofName hp hl.isLine hnone _

/-- **The next request is dispatched exactly when** the header lines of the
rejected one, with the blank line, are longer than the reader keeps. -/
theorem recovers_iff {p : RtspRequest} (hp : p.IsInitial) {line : Bytes} (hline : IsLine line)
    (hhead : line.head? ≠ some 0x24) (hreject : ∃ q, p.parseRequestLine line = .ok (false, q))
    {headers : List Bytes} (hheaders : ∀ l ∈ headers, IsHeader l) {second : Bytes}
    (hsecond : ∀ fresh : RtspRequest, fresh.IsInitial →
      ∃ q, readStep fresh second = .ok (q.reset, [], some q)) :
    Recovers p (line ++ crlf ++ (Search.text crlf headers ++ crlf)) second ↔
      maxRtspMessageSize < (Search.text crlf headers ++ crlf).length := by
  obtain ⟨q, hq, hread⟩ := readStep_rejectedLine hp hline hhead hreject
    (Search.text crlf headers ++ crlf)
  constructor
  · rintro ⟨p', buf', hfirst, fresh, r, -, -, hnext⟩
    rw [hread] at hfirst
    cases hfirst
    by_contra hshort
    rw [trim, if_neg hshort] at hnext
    exact readStep_headersLeft hq.state hheaders second hnext
  · intro hlong
    obtain ⟨r, hr⟩ := hsecond q hq
    refine ⟨q, [], ?_, q, r, hq, hr, hr⟩
    rw [hread, trim, if_pos hlong]

/-- A PAUSE. -/
def pause : Bytes := ascii "PAUSE rtsp://10.0.0.1:8554/live RTSP/1.0"

/-- A PAUSE is rejected by a new parser. -/
theorem parseRequestLine_pause : ∃ q, RtspRequest.parseRequestLine
    ⟨.none, .channel0, .rtpOverTcp, fun _ => none, fun _ => none, .parseRequestLine⟩ pause
      = .ok (false, q) := by
  have hfits : RequestLine.Fits pause := by decide
  have hmethod : Method.ofName (RequestLine.methodWord pause) = .none := by decide
  have hversion : RequestLine.versionWord pause ≠ [] := by decide
  rw [RequestLine.parseRequestLine_eq, if_pos hfits, RequestLine.readLine, if_neg hversion,
    if_pos hmethod]
  exact ⟨_, rfl⟩

/-- A header of any length. -/
def longHeader (n : ℕ) : Bytes := ascii "X:" ++ List.replicate n 0x61

theorem length_longHeader (n : ℕ) : (longHeader n).length = n + 2 := by
  rw [longHeader, List.length_append, List.length_replicate, Nat.add_comm]
  rfl

theorem isHeader_longHeader (n : ℕ) : IsHeader (longHeader n) := by
  refine ⟨ascii "X", List.replicate n 0x61, rfl, by decide, by decide, fun b hb => ?_⟩
  rw [List.eq_of_mem_replicate hb]
  decide

/-- A PAUSE with a header of more than 2048 bytes is forgotten. -/
theorem recovers_iff_long : Recovers
    ⟨.none, .channel0, .rtpOverTcp, fun _ => none, fun _ => none, .parseRequestLine⟩
    (pause ++ crlf ++ (Search.text crlf [longHeader 2048] ++ crlf))
    RequestText.trackSetup.bytes := by
  refine (recovers_iff ⟨rfl, rfl, rfl⟩ (by decide) (by decide) parseRequestLine_pause
    (fun l hl => ?_) fun fresh hfresh => ?_).mpr ?_
  · rw [List.mem_singleton.mp hl]
    exact isHeader_longHeader 2048
  · obtain ⟨q, -, -, -, hq⟩ := RequestText.trackSetup.readStep_bytes hfresh
    exact ⟨_, hq⟩
  · simp only [Search.text_cons, Search.text_nil, List.append_nil, List.length_append,
      length_longHeader]
    decide

/-- **A PAUSE with its number keeps the next request from being
dispatched.** -/
theorem not_recovers_pause : ¬ ∀ (p : RtspRequest) (line : Bytes) (headers : List Bytes)
    (second : Bytes), p.IsInitial → IsLine line → line.head? ≠ some 0x24 →
    (∃ q, p.parseRequestLine line = .ok (false, q)) → (∀ l ∈ headers, IsHeader l) →
    (∀ fresh : RtspRequest, fresh.IsInitial →
      ∃ q, readStep fresh second = .ok (q.reset, [], some q)) →
    Recovers p (line ++ crlf ++ (Search.text crlf headers ++ crlf)) second := by
  intro h
  have hheader : ∀ l ∈ [ascii "CSeq: 5"], IsHeader l := by
    intro l hl
    rw [List.mem_singleton.mp hl]
    exact ⟨ascii "CSeq", ascii " 5", rfl, by decide, by decide, by decide⟩
  obtain ⟨p', buf', hfirst, fresh, r, -, -, hnext⟩ := h
    ⟨.none, .channel0, .rtpOverTcp, fun _ => none, fun _ => none, .parseRequestLine⟩ pause
    [ascii "CSeq: 5"] RequestText.trackSetup.bytes ⟨rfl, rfl, rfl⟩ (by decide) (by decide)
    parseRequestLine_pause hheader fun fresh hfresh => by
      obtain ⟨q, -, -, -, hq⟩ := RequestText.trackSetup.readStep_bytes hfresh
      exact ⟨_, hq⟩
  obtain ⟨q, hq, hread⟩ := readStep_rejectedLine ⟨rfl, rfl, rfl⟩ (by decide) (by decide)
    parseRequestLine_pause (Search.text crlf [ascii "CSeq: 5"] ++ crlf)
  rw [hread, trim, if_neg (by decide)] at hfirst
  cases hfirst
  exact readStep_headersLeft hq.state hheader _ hnext

end RtspReader
